import Mpd.L2tp.Plain
import Mpd.L2tp.Quiet

/-! Two endpoints that have sent each other a SCCRQ: what each makes of the tie-breakers, and
what is left of the two tunnels. -/

set_option autoImplicit false

namespace Mpd

/-- An AVP of a type, as `ppp_l2tp_avp_list_find` finds it. -/
def avpIs (type : AvpType) (avp : Avp) : Bool := avp.vendor = 0 ∧ avp.type = type.num

/-- An endpoint: the tie-breaker that it used, the connection that it has initiated, and the one
that is created when the peer's SCCRQ arrives. -/
structure TieEnd where
  env : L2tpEnv
  tie : Option (Vector UInt8 8)
  outgoing : L2tpSetup
  incoming : L2tpSetup
  tied : (outgoing.avps.filter (avpIs .tieBreaker)).map (·.value) = tie.toList.map (·.toList)

namespace TieEnd

def avps (e : TieEnd) : List Avp := (l2tpStart e.env { e.outgoing with initiates := false }).ctrl.avps

/-- The SCCRQ that `ppp_l2tp_ctrl_initiate` has sent. -/
def sccrq (e : TieEnd) : List Avp :=
  avpOfWord16 .messageType L2tpMsgType.sccrq.num :: avpListRemove e.avps .messageType

def envWith (e : TieEnd) (outstanding : Option (List Avp)) : L2tpEnv :=
  { e.env with outstanding := fun _ => outstanding }

def receive (e other : TieEnd) (outstanding : Option (List Avp)) : Except L2tpFault L2tpWorld :=
  l2tpMessage (e.envWith outstanding)
    (l2tpStart e.env { e.incoming with initiates := false }) 0 other.sccrq

def process (e other : TieEnd) : Except L2tpFault L2tpWorld := e.receive other (some e.avps)

def incomingAvps (e : TieEnd) : List Avp :=
  (l2tpStart e.env { e.incoming with initiates := false }).ctrl.avps

end TieEnd

/-- `ppp_l2tp_avp_pack` has a descriptor for the AVP that allows its length. -/
def Avp.Packs (avp : Avp) : Prop :=
  ∃ desc, avpDescriptor pppL2tpAvpInfoList avp.vendor avp.type = some desc ∧
    desc.min_length ≤ avp.vlen ∧ avp.vlen ≤ desc.max_length ∧ avp.vlen ≤ avpMaxVlen

/-- The endpoint can take the other's SCCRQ: its node is configured, it has a secret if it is
challenged, and its SCCRP can be packed and is sent. -/
structure TieEnd.Accepts (e other : TieEnd) : Prop where
  configured : e.env.answer 0 = true
  secret : (∃ avp ∈ other.sccrq, avpIs .challenge avp = true) → e.incoming.secret.isSome = true
  packs : ∀ avp ∈ avpListRemove e.incomingAvps .messageType, avp.Packs
  sent : e.env.answer 1 = true

def L2tpWorld.OutgoingClosed (w : L2tpWorld) : Prop := ∃ result, .closeOther result ∈ w.acts

/-- Which of the tunnels survive, the first endpoint's and the second's: the lower value wins, and
a value wins against none. -/
def tieSurvivors : Option (Vector UInt8 8) → Option (Vector UInt8 8) → Bool × Bool
  | none, none => (true, true)
  | some _, none => (true, false)
  | none, some _ => (false, true)
  | some first, some second =>
      match compare first.toList second.toList with
      | .lt => (true, false)
      | .eq => (false, false)
      | .gt => (false, true)

structure TieAgreed (first second : TieEnd) (w v : L2tpWorld) : Prop where
  first_out : w.OutgoingClosed ↔ (tieSurvivors first.tie second.tie).1 = false
  first_in : v.ctrl.state = .dying ↔ (tieSurvivors first.tie second.tie).1 = false
  second_out : v.OutgoingClosed ↔ (tieSurvivors first.tie second.tie).2 = false
  second_in : w.ctrl.state = .dying ↔ (tieSurvivors first.tie second.tie).2 = false

/-- Both have processed the other's SCCRQ, and agree. -/
def TieSettled (first second : TieEnd) : Prop :=
  ∃ w v, first.process second = .ok w ∧ second.process first = .ok v ∧ TieAgreed first second w v

section Lists

variable {type other : AvpType}

theorem filter_eraseP {α : Type} {p q : α → Bool} (apart : ∀ x, q x = true → p x = false)
    (xs : List α) : (xs.eraseP q).filter p = xs.filter p := by
  induction xs with
  | nil => rfl
  | cons x xs ih =>
      rw [List.eraseP_cons]
      cases found : q x with
      | true => rw [cond_true, List.filter_cons_of_neg (by simp [apart x found])]
      | false => rw [cond_false, List.filter_cons, List.filter_cons, ih]

theorem num_injective (same : type.num = other.num) : type = other := by
  have found := AvpType.ofNum_num type
  rw [same, AvpType.ofNum_num] at found
  exact (Option.some.inj found).symm

theorem avpIs_other (apart : other ≠ type) {avp : Avp} (is : avpIs other avp = true) :
    avpIs type avp = false := by
  simp only [avpIs, decide_eq_true_eq, decide_eq_false_iff_not] at is ⊢
  rintro ⟨-, found⟩
  exact apart (num_injective (is.2.symm.trans found))

theorem filter_avpListRemove (apart : other ≠ type) (avps : List Avp) :
    (avpListRemove avps other).filter (avpIs type) = avps.filter (avpIs type) :=
  filter_eraseP (fun _ is => avpIs_other apart is) avps

theorem filter_append_other (avps : List Avp) {avp : Avp} (is : avpIs type avp = false) :
    (avps ++ [avp]).filter (avpIs type) = avps.filter (avpIs type) := by
  rw [List.filter_append, List.filter_cons_of_neg (by simp [is])]
  exact List.append_nil _

theorem filter_avpListDefault (avps : List Avp) {avp : Avp} (is : avpIs type avp = false) :
    (avpListDefault avps avp other).filter (avpIs type) = avps.filter (avpIs type) := by
  unfold avpListDefault
  split
  · rfl
  · exact filter_append_other avps is

theorem avpListDefault_has (avps : List Avp) {avp : Avp} (is : avpIs type avp = true) :
    (avpListDefault avps avp type).filter (avpIs type) ≠ [] := by
  unfold avpListDefault
  split
  · rename_i has
    obtain ⟨found, member, is⟩ := List.any_eq_true.mp has
    exact List.ne_nil_of_mem (List.mem_filter.mpr ⟨member, is⟩)
  · rw [List.filter_append, List.filter_cons_of_pos is]
    simp

end Lists

namespace TieEnd

variable (e other : TieEnd)

/-- The list of `ppp_l2tp_ctrl_create` once the required AVPs have their defaults. -/
def defaults : List Avp :=
  avpListDefault
    (avpListDefault
      (avpListDefault e.outgoing.avps ⟨true, 0, AvpType.protocolVersion.num, [1, 0]⟩
        .protocolVersion)
      ⟨true, 0, AvpType.hostName.num, e.outgoing.hostname⟩ .hostName)
    (avpOfWord32 .framingCapabilities (l2tpFramingSync ||| l2tpFramingAsync)) .framingCapabilities

theorem avps_eq : e.avps =
    avpListRemove (avpListRemove e.defaults .assignedTunnelId ++
      [avpOfWord16 .assignedTunnelId e.outgoing.tunnel_id]) .challenge ++
    if e.outgoing.secret.isSome
      then [⟨true, 0, AvpType.challenge.num, e.outgoing.chal.toList⟩] else [] := by
  have created : e.avps =
      if e.outgoing.secret.isSome then
        avpListRemove (avpListRemove e.defaults .assignedTunnelId ++
          [avpOfWord16 .assignedTunnelId e.outgoing.tunnel_id]) .challenge ++
          [⟨true, 0, AvpType.challenge.num, e.outgoing.chal.toList⟩]
      else
        avpListRemove (avpListRemove e.defaults .assignedTunnelId ++
          [avpOfWord16 .assignedTunnelId e.outgoing.tunnel_id]) .challenge := rfl
  rw [created]
  split
  · rfl
  · exact (List.append_nil _).symm

theorem filter_sccrq (type : AvpType) (message : .messageType ≠ type) :
    e.sccrq.filter (avpIs type) = e.avps.filter (avpIs type) := by
  have first : avpIs type (avpOfWord16 .messageType L2tpMsgType.sccrq.num) = false :=
    avpIs_other message rfl
  unfold sccrq
  rw [List.filter_cons_of_neg (by simp [first]), filter_avpListRemove message]

theorem filter_avps (type : AvpType) (challenge : .challenge ≠ type) :
    e.avps.filter (avpIs type) =
      (avpListRemove e.defaults .assignedTunnelId ++
        [avpOfWord16 .assignedTunnelId e.outgoing.tunnel_id]).filter (avpIs type) := by
  have last (avp : Avp) (is : avpIs .challenge avp = true) : [avp].filter (avpIs type) = [] := by
    rw [List.filter_cons_of_neg (by simp [avpIs_other challenge is])]
    rfl
  rw [avps_eq, List.filter_append, filter_avpListRemove challenge]
  split
  · rw [last _ rfl, List.append_nil]
  · exact List.append_nil _

theorem filter_avps_defaults (type : AvpType) (challenge : .challenge ≠ type)
    (tunnel : .assignedTunnelId ≠ type) :
    e.avps.filter (avpIs type) = e.defaults.filter (avpIs type) := by
  rw [filter_avps e type challenge, filter_append_other _ (avpIs_other tunnel rfl),
    filter_avpListRemove tunnel]

theorem filter_tie_avps :
    e.avps.filter (avpIs .tieBreaker) = e.outgoing.avps.filter (avpIs .tieBreaker) := by
  rw [filter_avps_defaults e .tieBreaker nofun nofun, defaults, filter_avpListDefault _ rfl,
    filter_avpListDefault _ rfl, filter_avpListDefault _ rfl]

theorem sccrq_complete (type : AvpType)
    (required : type ∈ [AvpType.protocolVersion, .hostName, .framingCapabilities,
      .assignedTunnelId]) : e.sccrq.filter (avpIs type) ≠ [] := by
  simp only [List.mem_cons, List.not_mem_nil, or_false] at required
  rcases required with rfl | rfl | rfl | rfl
  · rw [filter_sccrq e .protocolVersion nofun, filter_avps_defaults e .protocolVersion nofun nofun,
      defaults, filter_avpListDefault _ rfl, filter_avpListDefault _ rfl]
    exact avpListDefault_has _ rfl
  · rw [filter_sccrq e .hostName nofun, filter_avps_defaults e .hostName nofun nofun, defaults,
      filter_avpListDefault _ rfl]
    exact avpListDefault_has _ rfl
  · rw [filter_sccrq e .framingCapabilities nofun,
      filter_avps_defaults e .framingCapabilities nofun nofun]
    exact avpListDefault_has _ rfl
  · rw [filter_sccrq e .assignedTunnelId nofun, filter_avps e .assignedTunnelId nofun,
      List.filter_append]
    have last : avpIs .assignedTunnelId
        (avpOfWord16 .assignedTunnelId e.outgoing.tunnel_id) = true := rfl
    rw [List.filter_cons_of_pos last]
    simp

end TieEnd

section Pointers

def tieData (avp : Avp) : Bytes :=
  if avp.vlen ≥ 8 then avp.value.take 8 else List.replicate 8 0

def tiePtr (ptrs : AvpPtrs) : Option Bytes := ptrs .tieBreaker

theorem ofNum_some {num : UInt16} {type : AvpType} (found : AvpType.ofNum num = some type) :
    num = type.num := by
  have is := List.find?_some found
  exact (of_decide_eq_true is).symm

theorem avpList2ptrsOne_tie {ptrs after : AvpPtrs} {avp : Avp}
    (stored : avpList2ptrsOne ptrs avp = .ok after) :
    tiePtr after = if avpIs .tieBreaker avp then some (tieData avp) else tiePtr ptrs := by
  unfold avpList2ptrsOne at stored
  by_cases vendor : avp.vendor = 0
  · rw [if_neg (not_not.mpr vendor)] at stored
    have is_iff : avpIs .tieBreaker avp = true ↔ avp.type = AvpType.tieBreaker.num := by
      simp [avpIs, vendor]
    cases found : AvpType.ofNum avp.type with
    | none =>
        rw [found] at stored
        cases stored
        rw [if_neg]
        intro is
        rw [is_iff.mp is, AvpType.ofNum_num] at found
        cases found
    | some type =>
        rw [found] at stored
        have number := ofNum_some found
        by_cases tie : type = .tieBreaker
        · subst tie
          rw [if_pos (is_iff.mpr number)]
          cases stored
          rfl
        · rw [if_neg fun is => tie (num_injective (number.symm.trans (is_iff.mp is)))]
          by_cases vector : type = .randomVector
          · subst vector
            cases stored
            rfl
          · obtain ⟨data, read⟩ := avpData_ok type avp
            have written : Function.update ptrs type (some data) = after := by
              cases type <;>
                first
                  | exact absurd rfl vector
                  | (dsimp only at stored; rw [read] at stored; cases stored; rfl)
            rw [← written]
            exact Function.update_of_ne (Ne.symm tie) ..
  · rw [if_pos vendor] at stored
    cases stored
    rw [if_neg]
    simp [avpIs, vendor]

/-- An AVP of another type leaves a pointer alone. -/
theorem avpList2ptrsOne_other {type : AvpType} {ptrs after : AvpPtrs} {avp : Avp}
    (stored : avpList2ptrsOne ptrs avp = .ok after) (other : avpIs type avp = false) :
    after type = ptrs type := by
  unfold avpList2ptrsOne at stored
  by_cases vendor : avp.vendor = 0
  · rw [if_neg (not_not.mpr vendor)] at stored
    cases found : AvpType.ofNum avp.type with
    | none =>
        rw [found] at stored
        cases stored
        rfl
    | some named =>
        rw [found] at stored
        have number := ofNum_some found
        have apart : type ≠ named := by
          rintro rfl
          simp [avpIs, vendor, number] at other
        by_cases vector : named = .randomVector
        · subst vector
          cases stored
          rfl
        · obtain ⟨data, read⟩ := avpData_ok named avp
          have written : Function.update ptrs named (some data) = after := by
            cases named <;>
              first
                | exact absurd rfl vector
                | (dsimp only at stored; rw [read] at stored; cases stored; rfl)
          rw [← written]
          exact Function.update_of_ne apart ..
  · rw [if_pos vendor] at stored
    cases stored
    rfl

theorem avpList2ptrs_other {type : AvpType} {avps : List Avp} {ptrs after : AvpPtrs}
    (stored : avps.foldlM avpList2ptrsOne ptrs = .ok after)
    (others : ∀ avp ∈ avps, avpIs type avp = false) : after type = ptrs type := by
  induction avps generalizing ptrs with
  | nil =>
      cases stored
      rfl
  | cons avp avps ih =>
      rw [List.foldlM_cons] at stored
      obtain ⟨first, rest⟩ := List.forall_mem_cons.mp others
      cases one : avpList2ptrsOne ptrs avp with
      | error fault =>
          rw [one] at stored
          cases stored
      | ok middle =>
          rw [one] at stored
          exact (ih stored rest).trans (avpList2ptrsOne_other one first)

theorem avpList2ptrs_tie {avps : List Avp} {ptrs after : AvpPtrs}
    (stored : avps.foldlM avpList2ptrsOne ptrs = .ok after) :
    tiePtr after = (avps.filter (avpIs .tieBreaker)).foldl (fun _ avp => some (tieData avp))
      (tiePtr ptrs) := by
  induction avps generalizing ptrs with
  | nil =>
      cases stored
      rfl
  | cons avp avps ih =>
      rw [List.foldlM_cons] at stored
      cases one : avpList2ptrsOne ptrs avp with
      | error fault =>
          rw [one] at stored
          cases stored
      | ok middle =>
          rw [one] at stored
          have step := avpList2ptrsOne_tie one
          rw [ih stored, step]
          cases is : avpIs .tieBreaker avp with
          | true =>
              rw [List.filter_cons_of_pos is]
              rfl
          | false =>
              rw [List.filter_cons_of_neg (by simp [is])]
              rfl

end Pointers

namespace TieEnd

variable (e other : TieEnd)

/-- The tie-breaker that the endpoint finds in its own SCCRQ, and the one that the other finds. -/
theorem tie_found : (e.avps.find? (avpIs .tieBreaker)).map (·.value) = e.tie.map (·.toList) := by
  have tied := e.tied
  rw [← filter_tie_avps] at tied
  have first := congrArg List.head? tied
  rw [List.head?_map, List.head?_filter] at first
  rw [first]
  cases e.tie with
  | none => rfl
  | some value => rfl

theorem tie_received {ptrs : AvpPtrs} (stored : avpList2ptrs e.sccrq = .ok ptrs) :
    tiePtr ptrs = e.tie.map (·.toList) := by
  have tied := e.tied
  rw [← filter_tie_avps, ← filter_sccrq e .tieBreaker nofun] at tied
  have received := avpList2ptrs_tie stored
  generalize e.sccrq.filter (avpIs .tieBreaker) = found at tied received
  cases value : e.tie with
  | none =>
      rw [value] at tied
      have nothing : found = [] := List.map_eq_nil_iff.mp tied
      rw [received, nothing]
      rfl
  | some bytes =>
      rw [value] at tied
      obtain ⟨avp, one, same⟩ := List.map_eq_singleton_iff.mp tied
      have eight : avp.vlen = 8 := by rw [Avp.vlen, same, Vector.length_toList]
      have data : tieData avp = bytes.toList := by
        rw [tieData, if_pos (Nat.le_of_eq eight.symm), same]
        exact List.take_of_length_le (Nat.le_of_eq Vector.length_toList)
      rw [received, one]
      exact congrArg some data

/-- The connection that is created for the other's SCCRQ, when its handler is called. -/
def fresh : L2tpWorld :=
  (l2tpStart e.env { e.incoming with initiates := false }).setCtrl fun ctrl =>
    { ctrl with reply_timer := false }

def finish (env : L2tpEnv) (handled : Bool × L2tpWorld) : L2tpWorld :=
  if handled.1 then l2tpCtrlCheckReply handled.2 else l2tpFailErrno env handled.2

theorem l2tpMissing_sccrq :
    l2tpMissing ⟨"SCCRQ", .sccrq, .ctrl [.idle],
      [.protocolVersion, .hostName, .framingCapabilities, .assignedTunnelId]⟩ other.sccrq =
      none := by
  refine List.find?_eq_none.mpr fun type required => ?_
  obtain ⟨avp, member⟩ := List.exists_mem_of_ne_nil _ (sccrq_complete other type required)
  obtain ⟨there, is⟩ := List.mem_filter.mp member
  simp only [avpIs, decide_eq_true_eq] at is
  intro missing
  exact absurd is.2 (of_decide_eq_true (List.all_eq_true.mp missing avp there))

structure PointsTo (ptrs : AvpPtrs) : Prop where
  tie : tiePtr ptrs = other.tie.map (·.toList)
  required : ∀ type ∈ [AvpType.messageType, .protocolVersion, .hostName, .framingCapabilities,
    .assignedTunnelId], ∃ data, ptrs type = some data
  challenge : (ptrs .challenge).isSome = true ↔ ∃ avp ∈ other.sccrq, avpIs .challenge avp = true

theorem pointsTo {ptrs : AvpPtrs} (stored : avpList2ptrs other.sccrq = .ok ptrs)
    (filled : ∀ avp ∈ other.sccrq, ∀ type, avp.vendor = 0 → avp.type = type.num →
      type ≠ .randomVector → (ptrs type).isSome) : other.PointsTo ptrs where
  tie := tie_received other stored
  required type required := by
    have there (other_vector : type ≠ .randomVector)
        (found : ∃ avp ∈ other.sccrq, avpIs type avp = true) : ∃ data, ptrs type = some data := by
      obtain ⟨avp, member, is⟩ := found
      simp only [avpIs, decide_eq_true_eq] at is
      exact Option.isSome_iff_exists.mp (filled avp member type is.1 is.2 other_vector)
    cases List.mem_cons.mp required with
    | inl message =>
        subst message
        exact there nofun ⟨_, List.mem_cons_self, rfl⟩
    | inr later =>
        have vector : type ≠ .randomVector := by
          rintro rfl
          revert later
          decide
        refine there vector ?_
        obtain ⟨avp, member⟩ := List.exists_mem_of_ne_nil _ (sccrq_complete other type (by
          simp only [List.mem_cons, List.not_mem_nil, or_false] at later ⊢
          tauto))
        exact ⟨avp, (List.mem_filter.mp member).1, (List.mem_filter.mp member).2⟩
  challenge := by
    constructor
    · intro some
      by_contra none
      have others : ∀ avp ∈ other.sccrq, avpIs .challenge avp = false := fun avp member =>
        Bool.eq_false_iff.mpr fun is => none ⟨avp, member, is⟩
      rw [avpList2ptrs_other stored others] at some
      cases some
    · rintro ⟨avp, member, is⟩
      simp only [avpIs, decide_eq_true_eq] at is
      exact filled avp member .challenge is.1 is.2 nofun

/-- The SCCRQ gets to its handler, whatever there is outstanding. -/
theorem receive_eq : ∃ ptrs : AvpPtrs, other.PointsTo ptrs ∧
    ∀ outstanding, e.receive other outstanding =
      (l2tpHandleSccrq (e.envWith outstanding) e.fresh ptrs).map
        (finish (e.envWith outstanding)) := by
  obtain ⟨ptrs, stored, filled⟩ := avpList2ptrs_ok other.sccrq
  refine ⟨ptrs, pointsTo other stored filled, fun outstanding => ?_⟩
  have known : e.receive other outstanding =
      l2tpKnownMessage (e.envWith outstanding)
        (l2tpStart e.env { e.incoming with initiates := false }) 0
        ⟨"SCCRQ", .sccrq, .ctrl [.idle],
          [.protocolVersion, .hostName, .framingCapabilities, .assignedTunnelId]⟩
        other.sccrq := rfl
  rw [known, l2tpKnownMessage, l2tpMissing_sccrq other]
  dsimp only
  rw [stored]
  have message : l2tpCtrlMessage (e.envWith outstanding)
      (l2tpStart e.env { e.incoming with initiates := false })
      ⟨"SCCRQ", .sccrq, .ctrl [.idle],
        [.protocolVersion, .hostName, .framingCapabilities, .assignedTunnelId]⟩ [.idle]
      other.sccrq ptrs =
      l2tpHandleSccrq (e.envWith outstanding) e.fresh ptrs >>= fun result =>
        pure (finish (e.envWith outstanding) result) := rfl
  cases handled : l2tpHandleSccrq (e.envWith outstanding) e.fresh ptrs with
  | error fault =>
      rw [handled] at message
      exact message
  | ok result =>
      rw [handled] at message
      exact message

end TieEnd

section Sending

open Outcome

/-- Nothing has left the connection but messages. -/
def Sends (u w : L2tpWorld) : Prop :=
  ∃ sent, w.acts = u.acts ++ sent ∧ ∀ result, .closeOther result ∉ sent

theorem Sends.refl (u : L2tpWorld) : Sends u u := ⟨[], (List.append_nil _).symm, by simp⟩

theorem Sends.setCtrl {u w : L2tpWorld} {f : L2tpCtrl → L2tpCtrl} (sends : Sends u w) :
    Sends u (w.setCtrl f) := sends

theorem Sends.outgoingClosed {u w : L2tpWorld} (sends : Sends u w) :
    w.OutgoingClosed ↔ u.OutgoingClosed := by
  obtain ⟨sent, acts, other⟩ := sends
  unfold L2tpWorld.OutgoingClosed
  simp [acts, other]

variable (env : L2tpEnv) {u w : L2tpWorld} (sends : Sends u w)
include sends

theorem sends_ctrlWrite (session_id : UInt16) (msgtype : L2tpMsgType) (avps : List Avp) :
    Sends u (l2tpCtrlWrite env w session_id msgtype avps).2 := by
  unfold l2tpCtrlWrite
  dsimp only [L2tpWorld.ask]
  generalize Option.isNone _ = unpackable
  cases unpackable with
  | true => exact sends
  | false =>
      cases env.answer w.asked with
      | false => exact sends
      | true =>
          obtain ⟨sent, acts, other⟩ := sends
          refine ⟨sent ++ [.send session_id msgtype
            (avpOfWord16 .messageType msgtype.num :: avpListRemove avps .messageType)], ?_, ?_⟩
          · rw [← List.append_assoc, ← acts]
            rfl
          · simp [other]

theorem sends_ctrlClose (result error : UInt16) (errmsg : Option Bytes) :
    Sends u (l2tpCtrlClose env w result error errmsg) := by
  unfold l2tpCtrlClose
  split
  · exact sends
  · dsimp only
    split
    · exact sends
    · apply Sends.setCtrl
      apply Sends.setCtrl
      exact sends_ctrlWrite env sends.setCtrl.setCtrl ..

theorem sends_ctrlSend (session_id : UInt16) (msgtype : L2tpMsgType) (avps : List Avp) :
    Sends u (l2tpCtrlSend env w session_id msgtype avps) := by
  have written := sends_ctrlWrite env sends session_id msgtype avps
  unfold l2tpCtrlSend
  dsimp only
  split
  · exact written
  · exact sends_ctrlClose env written ..

theorem sends_ctrlSetup1 (ptrs : AvpPtrs) :
    Ends AnyFault (fun handled : Bool × L2tpWorld => Sends u handled.2)
      (l2tpCtrlSetup1 env w ptrs) := by
  unfold l2tpCtrlSetup1
  apply Ends.bind (any_follow ptrs _)
  intro hostname _
  apply Ends.bind (any_follow ptrs _)
  intro _ _
  apply Ends.bind (any_follow ptrs _)
  intro tunnelid _
  apply Ends.bind (any_follow ptrs _)
  intro framingcap _
  have asked : Sends u
      ((w.setCtrl (l2tpLearnPeer ptrs hostname tunnelid framingcap)).ask env).2 := sends
  dsimp only
  split
  · unfold l2tpAnswerChallenge
    split
    · exact asked
    · split
      · exact sends_ctrlClose env asked ..
      · apply Ends.bind (any_follow ptrs _)
        exact fun _ _ => asked
  · exact asked

theorem sends_acceptSccrq (ptrs : AvpPtrs) :
    Ends AnyFault (fun handled : Bool × L2tpWorld => Sends u handled.2)
      (l2tpAcceptSccrq env w ptrs) := by
  unfold l2tpAcceptSccrq
  apply Ends.bind (sends_ctrlSetup1 env sends ptrs)
  intro ⟨set, v⟩ kept
  cases set with
  | false => exact kept
  | true =>
      exact sends_ctrlSend env (w := v.setCtrl fun ctrl => { ctrl with state := .waitCtlConnect })
        kept ..

theorem sends_finish (handled : Bool) : Sends u (TieEnd.finish env (handled, w)) := by
  cases handled with
  | true => exact sends
  | false => exact sends_ctrlClose env sends ..

end Sending

/-- What the tie-breakers say to `ppp_l2tp_handle_SCCRQ`. -/
def tieOrder : Option (Vector UInt8 8) → Option (Vector UInt8 8) → Option Ordering
  | none, none => none
  | none, some _ => some .gt
  | some _, none => some .lt
  | some ours, some theirs => some (compare ours.toList theirs.toList)

namespace TieEnd

open Outcome

variable (e other : TieEnd)

theorem fresh_outgoing : ¬ e.fresh.OutgoingClosed := by
  rintro ⟨result, member⟩
  cases member

theorem l2tpTie_eq : l2tpTie e.avps (other.tie.map (·.toList)) = tieOrder e.tie other.tie := by
  have found := tie_found e
  have whole (bytes : Vector UInt8 8) : bytes.toList.take 8 = bytes.toList :=
    List.take_of_length_le (Nat.le_of_eq Vector.length_toList)
  have same : e.avps.find? (fun avp => avp.vendor = 0 ∧ avp.type = AvpType.tieBreaker.num) =
      e.avps.find? (avpIs .tieBreaker) := rfl
  unfold l2tpTie
  rw [same]
  generalize e.avps.find? (avpIs .tieBreaker) = own at found
  cases ours : e.tie with
  | none =>
      rw [ours] at found
      cases Option.map_eq_none_iff.mp found
      cases other.tie with
      | none => rfl
      | some theirs => rfl
  | some value =>
      rw [ours] at found
      obtain ⟨avp, rfl, carries⟩ := Option.map_eq_some_iff.mp found
      cases other.tie with
      | none => rfl
      | some theirs =>
          simp only [Option.map_some, tieOrder, carries, whole]

theorem handle_tie (ptrs : AvpPtrs) : l2tpHandleSccrq (e.envWith (some e.avps)) e.fresh ptrs =
    match l2tpTie e.avps (tiePtr ptrs) with
    | none => l2tpAcceptSccrq (e.envWith (some e.avps)) e.fresh ptrs
    | some .eq =>
        .ok (true, (l2tpCtrlClose (e.envWith (some e.avps)) e.fresh l2tpResultDupCtrl 0 none).act
          (.closeOther l2tpResultDupCtrl))
    | some .gt =>
        .ok (true, l2tpCtrlClose (e.envWith (some e.avps)) e.fresh l2tpResultDupCtrl 0 none)
    | some .lt =>
        l2tpAcceptSccrq (e.envWith (some e.avps))
          (e.fresh.act (.closeOther l2tpResultDupCtrl)) ptrs := rfl

theorem process_none (tie : tieOrder e.tie other.tie = none) :
    e.process other = e.receive other none := by
  obtain ⟨ptrs, received, step⟩ := receive_eq e other
  have decided : l2tpTie e.avps (tiePtr ptrs) = none := by rw [received.tie, l2tpTie_eq, tie]
  have same : l2tpHandleSccrq (e.envWith (some e.avps)) e.fresh ptrs =
      l2tpAcceptSccrq (e.envWith (some e.avps)) e.fresh ptrs := by
    rw [handle_tie, decided]
  rw [process, step, step, same]
  rfl

theorem process_eq (tie : tieOrder e.tie other.tie = some .eq) :
    ∃ w, e.process other = .ok w ∧ w.ctrl.state = .dying ∧ w.OutgoingClosed := by
  obtain ⟨ptrs, received, step⟩ := receive_eq e other
  have decided : l2tpTie e.avps (tiePtr ptrs) = some .eq := by rw [received.tie, l2tpTie_eq, tie]
  have handled : l2tpHandleSccrq (e.envWith (some e.avps)) e.fresh ptrs =
      .ok (true, (l2tpCtrlClose (e.envWith (some e.avps)) e.fresh
        l2tpResultDupCtrl 0 none).act (.closeOther l2tpResultDupCtrl)) := by
    rw [handle_tie, decided]
  have dying := ctrlClose_dying (e.envWith (some e.avps)) e.fresh l2tpResultDupCtrl 0 none
  rw [process, step, handled]
  refine ⟨_, rfl, dying, l2tpResultDupCtrl, ?_⟩
  exact List.mem_append_right _ (List.mem_singleton_self _)

theorem process_lt (tie : tieOrder e.tie other.tie = some .lt) {w : L2tpWorld}
    (processed : e.process other = .ok w) : w.OutgoingClosed := by
  obtain ⟨ptrs, received, step⟩ := receive_eq e other
  have decided : l2tpTie e.avps (tiePtr ptrs) = some .lt := by rw [received.tie, l2tpTie_eq, tie]
  have same : l2tpHandleSccrq (e.envWith (some e.avps)) e.fresh ptrs =
      l2tpAcceptSccrq (e.envWith (some e.avps))
        (e.fresh.act (.closeOther l2tpResultDupCtrl)) ptrs := by
    rw [handle_tie, decided]
  have closed : (e.fresh.act (.closeOther l2tpResultDupCtrl)).OutgoingClosed :=
    ⟨l2tpResultDupCtrl, List.mem_append_right _ (List.mem_singleton_self _)⟩
  have accepted := sends_acceptSccrq (e.envWith (some e.avps))
    (.refl (e.fresh.act (.closeOther l2tpResultDupCtrl))) ptrs
  have finished : Ends AnyFault (fun w => Sends (e.fresh.act (.closeOther l2tpResultDupCtrl)) w)
      (e.process other) := by
    rw [process, step, same]
    exact accepted.map fun handled kept => sends_finish _ kept handled.1
  exact (finished.value processed).outgoingClosed.mpr closed

theorem receive_none {w : L2tpWorld} (received : e.receive other none = .ok w) :
    ¬ w.OutgoingClosed := by
  obtain ⟨ptrs, -, step⟩ := receive_eq e other
  have accepted := sends_acceptSccrq (e.envWith none) (.refl e.fresh) ptrs
  have finished : Ends AnyFault (fun w => Sends e.fresh w) (e.receive other none) := by
    rw [step]
    exact accepted.map fun handled kept => sends_finish _ kept handled.1
  rw [(finished.value received).outgoingClosed]
  exact fresh_outgoing e

end TieEnd

section Accepting

/-- A list is packed if each of its AVPs can be. -/
theorem avpPackFrom_isSome_iff (md5 : Md5) (secret : Option Bytes) (randvec : Vector UInt8 4)
    (buf : Option (Nat → UInt8)) (randsent : Bool) (len : Nat) (avps : List Avp) :
    (avpPackFrom md5 pppL2tpAvpInfoList secret randvec buf randsent len avps).isSome = true ↔
      ∀ avp ∈ avps, avp.Packs := by
  induction avps generalizing randsent len with
  | nil => simp [avpPackFrom]
  | cons avp avps ih =>
      rw [List.forall_mem_cons]
      unfold avpPackFrom Avp.Packs
      cases avpDescriptor pppL2tpAvpInfoList avp.vendor avp.type with
      | none => simp
      | some desc =>
          dsimp only
          by_cases allowed : desc.min_length ≤ avp.vlen ∧ avp.vlen ≤ desc.max_length ∧
              avp.vlen ≤ avpMaxVlen
          · rw [if_neg (by omega), Option.isSome_map, ih]
            exact (and_iff_right ⟨desc, rfl, allowed⟩).symm
          · rw [if_pos (by omega)]
            refine iff_of_false Bool.false_ne_true ?_
            rintro ⟨⟨same, found, fits⟩, -⟩
            cases found
            exact allowed fits

theorem ctrlSend_alive_iff (env : L2tpEnv) {w : L2tpWorld} (alive : w.ctrl.state ≠ .dying)
    (session_id : UInt16) {msgtype : L2tpMsgType}
    (packed : (avpOfWord16 .messageType msgtype.num).Packs) (avps : List Avp) :
    (l2tpCtrlSend env w session_id msgtype avps).ctrl.state ≠ .dying ↔
      (∀ avp ∈ avpListRemove avps .messageType, avp.Packs) ∧ env.answer w.asked = true := by
  have packs := avpPackFrom_isSome_iff env.md5 (if w.ctrl.hide_avps then w.ctrl.secret else none)
    env.randvec none false 0 (avpOfWord16 .messageType msgtype.num :: avpListRemove avps .messageType)
  rw [List.forall_mem_cons, and_iff_right packed] at packs
  unfold l2tpCtrlSend l2tpCtrlWrite avpPack
  rw [← packs]
  dsimp only [L2tpWorld.ask]
  cases avpPackFrom env.md5 pppL2tpAvpInfoList (if w.ctrl.hide_avps then w.ctrl.secret else none)
      env.randvec none false 0
      (avpOfWord16 .messageType msgtype.num :: avpListRemove avps .messageType) with
  | none => simp [ctrlClose_dying]
  | some packed =>
      cases env.answer w.asked with
      | false => simp [ctrlClose_dying]
      | true => exact iff_of_true alive ⟨rfl, rfl⟩

theorem avpListRemove_concat (avps : List Avp) {avp : Avp} (other : avpIs .messageType avp = false) :
    avpListRemove (avps ++ [avp]) .messageType = avpListRemove avps .messageType ++ [avp] := by
  have kept : [avp].eraseP (avpIs .messageType) = [avp] :=
    List.eraseP_of_forall_not (by simp [other])
  change (avps ++ [avp]).eraseP (avpIs .messageType) = avps.eraseP (avpIs .messageType) ++ [avp]
  by_cases has : ∃ found ∈ avps, avpIs .messageType found = true
  · obtain ⟨found, member, is⟩ := has
    exact List.eraseP_append_left is _ member
  · have none : ∀ found ∈ avps, ¬ avpIs .messageType found = true := fun found member is =>
      has ⟨found, member, is⟩
    rw [List.eraseP_append_right _ none, kept, List.eraseP_of_forall_not none]

namespace TieEnd

variable (e other : TieEnd)

/-- What is left of the endpoint's own once the peer's SCCRQ is taken. -/
theorem finish_sent {env : L2tpEnv} {w : L2tpWorld} (asked : w.asked = 1)
    (avps : avpListRemove w.ctrl.avps .messageType = avpListRemove e.incomingAvps .messageType ∨
      ∃ hash : Vector UInt8 16, avpListRemove w.ctrl.avps .messageType =
        avpListRemove e.incomingAvps .messageType ++
          [⟨false, 0, AvpType.challengeResponse.num, hash.toList⟩]) :
    (finish env (true, l2tpCtrlSend env
        (w.setCtrl fun ctrl => { ctrl with state := .waitCtlConnect }) 0 .sccrp w.ctrl.avps)).ctrl.state ≠
        .dying ↔
      (∀ avp ∈ avpListRemove e.incomingAvps .messageType, avp.Packs) ∧ env.answer 1 = true := by
  have alive : (w.setCtrl fun ctrl => { ctrl with state := .waitCtlConnect }).ctrl.state ≠
      .dying := nofun
  have message : (avpOfWord16 .messageType L2tpMsgType.sccrp.num).Packs :=
    ⟨_, rfl, by decide, by decide, by decide⟩
  have sending := ctrlSend_alive_iff env alive 0 message w.ctrl.avps
  have count : (w.setCtrl fun ctrl => { ctrl with state := .waitCtlConnect }).asked = 1 := asked
  rw [count] at sending
  refine Iff.trans Iff.rfl (sending.trans (and_congr_left fun _ => ?_))
  rcases avps with same | ⟨hash, same⟩
  · rw [same]
  · have response : Avp.Packs ⟨false, 0, AvpType.challengeResponse.num, hash.toList⟩ := by
      have vlen : (⟨false, 0, AvpType.challengeResponse.num, hash.toList⟩ : Avp).vlen = 16 :=
        Vector.length_toList
      exact ⟨_, rfl, Nat.le_of_eq vlen.symm, Nat.le_of_eq vlen,
        Nat.le_trans (Nat.le_of_eq vlen) (by decide)⟩
    rw [same, List.forall_mem_append, and_iff_left]
    simpa using response

theorem finish_failed (env : L2tpEnv) (w : L2tpWorld) : (finish env (false, w)).ctrl.state = .dying :=
  ctrlClose_dying ..

/-- What an endpoint without a SCCRQ of its own makes of the other's. -/
theorem receives_iff :
    (∃ w, e.receive other none = .ok w ∧ w.ctrl.state ≠ .dying) ↔ e.Accepts other := by
  obtain ⟨ptrs, points, step⟩ := receive_eq e other
  have challenged := points.challenge
  obtain ⟨name, hostName⟩ := points.required .hostName (by decide)
  obtain ⟨vers, version⟩ := points.required .protocolVersion (by decide)
  obtain ⟨tunnel, tunnelId⟩ := points.required .assignedTunnelId (by decide)
  obtain ⟨cap, framing⟩ := points.required .framingCapabilities (by decide)
  obtain ⟨mesg, message⟩ := points.required .messageType (by decide)
  let env := e.envWith none
  let w := (e.fresh.setCtrl (l2tpLearnPeer ptrs name tunnel cap)).ask env
  have setup : l2tpCtrlSetup1 env e.fresh ptrs =
      if env.answer 0 then l2tpAnswerChallenge env w.2 ptrs else .ok (false, w.2) := by
    unfold l2tpCtrlSetup1 AvpPtrs.follow
    rw [hostName, version, tunnelId, framing]
    rfl
  have accepted : e.receive other none =
      ((l2tpCtrlSetup1 env e.fresh ptrs).bind fun handled =>
        if !handled.1 then .ok (false, handled.2)
        else .ok (true, l2tpCtrlSend env
          (handled.2.setCtrl fun ctrl => { ctrl with state := .waitCtlConnect }) 0 .sccrp
          handled.2.ctrl.avps)).map (finish env) := step none
  rw [accepted, setup]
  have dies {v : L2tpWorld} (failed : v.ctrl.state = .dying) :
      ¬ ∃ w, (Except.ok v : Except L2tpFault L2tpWorld) = .ok w ∧ w.ctrl.state ≠ .dying := by
    rintro ⟨w, same, alive⟩
    cases same
    exact alive failed
  have lives (v : L2tpWorld) :
      (∃ w, (Except.ok v : Except L2tpFault L2tpWorld) = .ok w ∧ w.ctrl.state ≠ .dying) ↔
        v.ctrl.state ≠ .dying := by
    simp
  cases configured : e.env.answer 0 with
  | false =>
      have refused : env.answer 0 = false := configured
      rw [refused]
      refine iff_of_false (dies (finish_failed env _)) fun accepts => ?_
      cases configured.symm.trans accepts.configured
  | true =>
      have taken : env.answer 0 = true := configured
      rw [taken, if_pos rfl]
      unfold l2tpAnswerChallenge
      cases challenge : ptrs .challenge with
      | none =>
          rw [challenge] at challenged
          have unchallenged : ¬ ∃ avp ∈ other.sccrq, avpIs .challenge avp = true := fun some =>
            Bool.noConfusion (challenged.mpr some)
          have sent := @finish_sent e env w.2 rfl (.inl rfl)
          refine (lives _).trans (sent.trans ?_)
          exact ⟨fun both => ⟨configured, fun some => absurd some unchallenged, both.1, both.2⟩,
            fun accepts => ⟨accepts.packs, accepts.sent⟩⟩
      | some data =>
          rw [challenge] at challenged
          have asked := challenged.mp rfl
          have own : w.2.ctrl.secret = e.incoming.secret := rfl
          dsimp only
          rw [own]
          cases secret : e.incoming.secret with
          | none =>
              refine iff_of_false (dies (finish_failed env _)) fun accepts => ?_
              have known := accepts.secret asked
              rw [secret] at known
              cases known
          | some key =>
              dsimp only
              unfold AvpPtrs.follow
              rw [message]
              have sent (hash : Vector UInt8 16) := @finish_sent e env
                (w.2.setCtrl fun ctrl => { ctrl with
                  avps := ctrl.avps ++
                    [⟨false, 0, AvpType.challengeResponse.num, hash.toList⟩] })
                rfl (.inr ⟨hash, avpListRemove_concat e.incomingAvps rfl⟩)
              refine (lives _).trans ((sent _).trans ?_)
              exact ⟨fun both => ⟨configured, fun _ => by rw [secret]; rfl, both.1, both.2⟩,
                fun accepts => ⟨accepts.packs, accepts.sent⟩⟩

end TieEnd

end Accepting

section Settled

variable {first second : TieEnd}

/-- The one that loses is the one that should be left. -/
theorem survives_of_lt (tie : tieOrder first.tie second.tie = some .lt) :
    (tieSurvivors first.tie second.tie).1 = true ∧
      (tieSurvivors second.tie first.tie).2 = true := by
  cases ours : first.tie with
  | none =>
      rw [ours] at tie
      cases theirs : second.tie with
      | none =>
          rw [theirs] at tie
          cases tie
      | some value =>
          rw [theirs] at tie
          cases tie
  | some value =>
      cases theirs : second.tie with
      | none => exact ⟨rfl, rfl⟩
      | some value' =>
          rw [ours, theirs] at tie
          have order : compare value.toList value'.toList = .lt := Option.some.inj tie
          have reverse : compare value'.toList value.toList = .gt :=
            Std.OrientedCmp.gt_iff_lt.mpr order
          simp [tieSurvivors, order, reverse]

theorem first_loses (tie : tieOrder first.tie second.tie = some .lt) :
    ¬ TieSettled first second := by
  rintro ⟨w, v, processed, -, agreed⟩
  have lost := agreed.first_out.mp (first.process_lt second tie processed)
  rw [(survives_of_lt tie).1] at lost
  cases lost

theorem second_loses (tie : tieOrder second.tie first.tie = some .lt) :
    ¬ TieSettled first second := by
  rintro ⟨w, v, -, processed, agreed⟩
  have lost := agreed.second_out.mp (second.process_lt first tie processed)
  rw [(survives_of_lt tie).2] at lost
  cases lost

/-- Without tie-breakers both connections should be left. -/
theorem settled_without (ours : first.tie = none) (theirs : second.tie = none) :
    TieSettled first second ↔ first.Accepts second ∧ second.Accepts first := by
  have tie : tieOrder first.tie second.tie = none := by rw [ours, theirs, tieOrder]
  have tie' : tieOrder second.tie first.tie = none := by rw [ours, theirs, tieOrder]
  have both : tieSurvivors first.tie second.tie = (true, true) := by rw [ours, theirs]; rfl
  have agreed_iff (w v : L2tpWorld) (out : ¬ w.OutgoingClosed) (out' : ¬ v.OutgoingClosed) :
      TieAgreed first second w v ↔ w.ctrl.state ≠ .dying ∧ v.ctrl.state ≠ .dying := by
    constructor
    · rintro ⟨-, first_in, -, second_in⟩
      rw [both] at first_in second_in
      exact ⟨fun dying => Bool.noConfusion (second_in.mp dying),
        fun dying => Bool.noConfusion (first_in.mp dying)⟩
    · rintro ⟨alive, alive'⟩
      refine ⟨?_, ?_, ?_, ?_⟩
      all_goals rw [both]; simp [out, out', alive, alive']
  unfold TieSettled
  rw [← TieEnd.receives_iff, ← TieEnd.receives_iff, TieEnd.process_none first second tie,
    TieEnd.process_none second first tie']
  constructor
  · rintro ⟨w, v, processed, processed', agreed⟩
    obtain ⟨alive, alive'⟩ := (agreed_iff w v (first.receive_none second processed)
      (second.receive_none first processed')).mp agreed
    exact ⟨⟨w, processed, alive⟩, ⟨v, processed', alive'⟩⟩
  · rintro ⟨⟨w, processed, alive⟩, ⟨v, processed', alive'⟩⟩
    exact ⟨w, v, processed, processed', (agreed_iff w v (first.receive_none second processed)
      (second.receive_none first processed')).mpr ⟨alive, alive'⟩⟩

/-- With the same tie-breaker neither should be left. -/
theorem settled_same {value : Vector UInt8 8} (ours : first.tie = some value)
    (theirs : second.tie = some value) : TieSettled first second := by
  have order : compare value.toList value.toList = .eq := Std.ReflCmp.compare_self
  have tie : tieOrder first.tie second.tie = some .eq := by rw [ours, theirs, tieOrder, order]
  have tie' : tieOrder second.tie first.tie = some .eq := by rw [ours, theirs, tieOrder, order]
  have neither : tieSurvivors first.tie second.tie = (false, false) := by
    rw [ours, theirs, tieSurvivors, order]
  obtain ⟨w, processed, dying, out⟩ := first.process_eq second tie
  obtain ⟨v, processed', dying', out'⟩ := second.process_eq first tie'
  refine ⟨w, v, processed, processed', ?_, ?_, ?_, ?_⟩
  all_goals rw [neither]; simp [out, out', dying, dying']

end Settled

/-- The endpoints agree as the tie-breakers say if and only if both have sent the same one, or
neither has sent one and each would take the other's SCCRQ by itself. -/
theorem tieSettled_iff (first second : TieEnd) :
    TieSettled first second ↔
      (∃ value, first.tie = some value ∧ second.tie = some value) ∨
      (first.tie = none ∧ second.tie = none ∧ first.Accepts second ∧ second.Accepts first) := by
  cases ours : first.tie with
  | none =>
      cases theirs : second.tie with
      | none => simp [settled_without ours theirs]
      | some value =>
          have tie : tieOrder second.tie first.tie = some .lt := by rw [ours, theirs, tieOrder]
          simp [second_loses tie]
  | some value =>
      cases theirs : second.tie with
      | none =>
          have tie : tieOrder first.tie second.tie = some .lt := by rw [ours, theirs, tieOrder]
          simp [first_loses tie]
      | some value' =>
          have self (bytes : Bytes) : compare bytes bytes = .eq := Std.ReflCmp.compare_self
          have apart (ne : value ≠ value') :
              ¬ ((∃ same, some value = some same ∧ some value' = some same) ∨
                (some value = none ∧ some value' = none ∧ first.Accepts second ∧
                  second.Accepts first)) := by
            rintro (⟨same, mine, his⟩ | ⟨absent, -⟩)
            · exact ne (Option.some.inj (mine.trans his.symm))
            · cases absent
          cases order : compare value.toList value'.toList with
          | lt =>
              have tie : tieOrder first.tie second.tie = some .lt := by
                rw [ours, theirs, tieOrder, order]
              refine iff_of_false (first_loses tie) (apart ?_)
              rintro rfl
              rw [self] at order
              cases order
          | gt =>
              have tie : tieOrder second.tie first.tie = some .lt := by
                rw [ours, theirs, tieOrder, Std.OrientedCmp.gt_iff_lt.mp order]
              refine iff_of_false (second_loses tie) (apart ?_)
              rintro rfl
              rw [self] at order
              cases order
          | eq =>
              have same : value = value' :=
                Vector.toList_inj.mp (Std.LawfulEqCmp.eq_of_compare order)
              have settled : TieSettled first second := settled_same (same ▸ ours) theirs
              exact iff_of_true settled (.inl ⟨value, rfl, congrArg some same.symm⟩)

/-- An endpoint with a tie-breaker and nothing else. -/
def tieEndOf (value : Vector UInt8 8) : TieEnd where
  env := l2tpCalmEnv
  tie := some value
  outgoing := { avps := [⟨false, 0, AvpType.tieBreaker.num, value.toList⟩] }
  incoming := {}
  tied := rfl

/-- The endpoint with the lower value closes its own connection. -/
theorem not_tieSettled :
    ¬ TieSettled (tieEndOf (Vector.replicate 8 1)) (tieEndOf (Vector.replicate 8 2)) := by
  rintro ⟨w, v, processed, -, agreed⟩
  have closed := TieEnd.process_lt (tieEndOf (Vector.replicate 8 1))
    (tieEndOf (Vector.replicate 8 2)) (by decide) processed
  have lost := agreed.first_out.mp closed
  exact absurd lost (by decide)

end Mpd
