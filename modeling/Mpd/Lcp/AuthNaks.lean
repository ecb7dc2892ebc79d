import Mpd.Lcp.Authentication
import Mpd.Link.Init

/-! How LCP moves from one authentication protocol to the next as the peer naks
them. -/

set_option autoImplicit false

namespace Mpd

def LcpState.asksFor (lcp : LcpState) : Option LcpAuthProto :=
  gLcpAuthProtos.find? fun entry =>
    entry.proto = lcp.want_auth && (entry.proto ≠ protoChap || entry.alg = lcp.want_alg)

namespace AuthNaks

/-- A Configure-Nak that names one authentication protocol, among other options. -/
structure AuthNak where
  before : List FsmOption
  opt : FsmOption
  after : List FsmOption
  authproto : opt.meaning? gLcpConfOpts = some .authproto
  others : ∀ other ∈ before ++ after, other.meaning? gLcpConfOpts ≠ some .authproto

/-- The entry of the table that is named, where there is one. -/
def AuthNak.names (nak : AuthNak) : Option LcpAuthProto :=
  (authOptPos nak.opt).bind (gLcpAuthProtos[·]?)

def step (w : FsmWorld Link) (nak : AuthNak) : FsmWorld Link :=
  lcpDecodeConfig (nak.before ++ nak.opt :: nak.after) .nak w

/-- What was asked for, what the peer suggested, and what it turned down without
suggesting it again. -/
structure History where
  tried : List LcpAuthProto
  suggested : List LcpAuthProto
  nakd : List LcpAuthProto

def History.start (l : Link) : History := ⟨l.lcp.asksFor.toList, [], []⟩

def History.next (history : History) (before : Link) (nak : AuthNak) (after : Link) : History where
  tried := history.tried ++ after.lcp.asksFor.toList
  suggested := history.suggested ++ nak.names.toList
  nakd := (history.nakd ++ before.lcp.asksFor.toList).filter (some · ≠ nak.names)

/-- What a Nak should do, where `history` includes it. -/
structure StepSound (history : History) (before : Link) (nak : AuthNak) (after : Link) :
    Prop where
  kept : (∀ named, nak.names = some named → before.conf.options.enabled named.conf = false) →
    ∀ entry, before.conf.options.enabled entry.conf = true →
      some entry ∈ before.lcp.want_protos → some entry ∈ after.lcp.want_protos
  taken : ∀ named, nak.names = some named → before.conf.options.enabled named.conf = true →
    after.lcp.asksFor = some named
  left_alone : ∀ entry, after.lcp.asksFor = some entry → entry ∉ history.nakd
  once : ∀ entry, history.tried.count entry ≤ history.suggested.count entry + 1
  none_skipped : ∀ entry ∈ gLcpAuthProtos, before.conf.options.enabled entry.conf = true →
    entry ∈ history.tried ∨ some entry ∈ after.lcp.want_protos

/-- Every Nak of a sequence does what it should. -/
def Sound (history : History) (w : FsmWorld Link) : List AuthNak → Prop
  | [] => True
  | nak :: naks =>
      let after := step w nak
      let history := history.next w.layer nak after.layer
      StepSound history w.layer nak after.layer ∧ Sound history after naks

/-- The enabled protocols, as they are preferred, but for the one that is asked for first. -/
def waiting (options : OptInfo) : List LcpAuthProto :=
  (lcpPossibleProtos.filter fun entry => options.enabled entry.conf).tail

def Displaces (options : OptInfo) (named : LcpAuthProto) : Prop :=
  ∃ other ∈ waiting options,
    lcpPossibleProtos[gLcpAuthProtos.idxOf named]? = some other

/-- Naks that the code handles well. All of them name protocols of the table, and at most one
names a protocol that is not enabled. `spare`, the protocol to turn to then, has to be there
and not to have been suggested before; and no protocol may wait where the code looks for the
named one. -/
def Handled (options : OptInfo) : Option LcpAuthProto → List AuthNak → Prop
  | _, [] => True
  | spare, nak :: naks =>
      match nak.names with
      | none => False
      | some named =>
          if options.enabled named.conf then
            Handled options (if spare = some named then none else spare) naks
          else spare.isSome ∧ ¬ Displaces options named ∧ Handled options none naks

section Table

theorem nodup_gLcpAuthProtos : gLcpAuthProtos.Nodup := by decide

theorem asksFor_of_entry {lcp : LcpState} {entry : LcpAuthProto} (listed : entry ∈ gLcpAuthProtos)
    (proto : entry.proto = lcp.want_auth) (alg : entry.proto = protoChap → entry.alg = lcp.want_alg) :
    lcp.asksFor = some entry := by
  have table : ∀ entry ∈ gLcpAuthProtos, ∀ alg, (entry.proto = protoChap → entry.alg = alg) →
      (gLcpAuthProtos.find? fun other => other.proto = entry.proto &&
        (other.proto ≠ protoChap || other.alg = alg)) = some entry := by
    intro entry listed alg matched
    simp only [gLcpAuthProtos, List.mem_cons, List.not_mem_nil, or_false] at listed
    obtain rfl | rfl | rfl | rfl | rfl := listed
    · rfl
    · rw [← matched rfl]
      decide
    · rw [← matched rfl]
      decide
    · rw [← matched rfl]
      decide
    · rfl
  unfold LcpState.asksFor
  rw [← proto]
  exact table entry listed lcp.want_alg alg

theorem idxOf_of_names {nak : AuthNak} {pos : Nat} {named : LcpAuthProto}
    (position : authOptPos nak.opt = some pos) (names : nak.names = some named) :
    pos = gLcpAuthProtos.idxOf named := by
  unfold AuthNak.names at names
  rw [position, Option.bind_some] at names
  obtain ⟨below, entry⟩ := List.getElem?_eq_some_iff.mp names
  rw [← entry]
  exact (List.Nodup.idxOf_getElem nodup_gLcpAuthProtos pos below).symm

theorem mem_of_names {nak : AuthNak} {named : LcpAuthProto} (names : nak.names = some named) :
    named ∈ gLcpAuthProtos := by
  obtain ⟨pos, -, listed⟩ := Option.bind_eq_some_iff.mp names
  exact List.mem_of_getElem? listed

end Table

section Step

def Untouched (before after : Link) : Prop :=
  after.conf = before.conf ∧ before.lcp.SameAuth after.lcp

theorem Untouched.trans {first second third : Link} (left : Untouched first second)
    (right : Untouched second third) : Untouched first third :=
  ⟨right.1.trans left.1, right.2.want_auth.trans left.2.want_auth,
    right.2.want_alg.trans left.2.want_alg, right.2.want_protos.trans left.2.want_protos,
    right.2.peer_auth.trans left.2.peer_auth, right.2.peer_alg.trans left.2.peer_alg,
    right.2.peer_protos.trans left.2.peer_protos⟩

theorem Untouched.asksFor {before after : Link} (same : Untouched before after) :
    after.lcp.asksFor = before.lcp.asksFor := by
  unfold LcpState.asksFor
  rw [same.2.want_auth, same.2.want_alg]

theorem untouched_other (opt : FsmOption) (other : opt.meaning? gLcpConfOpts ≠ some .authproto)
    (w : FsmWorld Link) : Untouched w.layer (lcpDecodeOption .nak opt w).layer := by
  have effect := optionEffect_lcpDecodeOption .nak opt w
  generalize (lcpDecodeOption .nak opt w).layer = after at effect ⊢
  cases effect with
  | recorded asked acks => cases asked
  | kept => exact ⟨rfl, .refl _⟩
  | auth answer means => exact absurd means other
  | other answer lcp magics changed => exact ⟨rfl, changed.toSameAuth⟩

theorem untouched_others {options : List FsmOption}
    (others : ∀ other ∈ options, other.meaning? gLcpConfOpts ≠ some .authproto)
    (w : FsmWorld Link) :
    Untouched w.layer (options.foldl (fun w opt => lcpDecodeOption .nak opt w) w).layer := by
  induction options generalizing w with
  | nil => exact ⟨rfl, .refl _⟩
  | cons opt options ih =>
      have first := untouched_other opt (others opt List.mem_cons_self) w
      exact first.trans (ih (fun other member => others other (List.mem_cons_of_mem opt member)) _)

structure StepEffect (before : Link) (nak : AuthNak) (after : Link) : Prop where
  conf : after.conf = before.conf
  unknown : nak.names = none → after.lcp.want_protos = before.lcp.want_protos ∧
    after.lcp.asksFor = before.lcp.asksFor
  enabled : ∀ named, nak.names = some named → before.conf.options.enabled named.conf = true →
    after.lcp.want_protos = before.lcp.want_protos ∧ after.lcp.asksFor = some named
  disabled : ∀ named, nak.names = some named → before.conf.options.enabled named.conf = false →
    after.lcp.want_protos = before.lcp.want_protos.set (gLcpAuthProtos.idxOf named) none ∧
      after.lcp.asksFor = (after.lcp.want_protos.findSome? id).or before.lcp.asksFor

theorem StepEffect.of_untouched {before before' after after' : Link} {nak : AuthNak}
    (effect : StepEffect before' nak after') (left : Untouched before before')
    (right : Untouched after' after) : StepEffect before nak after where
  conf := right.1.trans (effect.conf.trans left.1)
  unknown names := by
    rw [right.2.want_protos, right.asksFor, ← left.2.want_protos, ← left.asksFor]
    exact effect.unknown names
  enabled named names on := by
    rw [← left.1] at on
    rw [right.2.want_protos, right.asksFor, ← left.2.want_protos]
    exact effect.enabled named names on
  disabled named names off := by
    rw [← left.1] at off
    rw [right.2.want_protos, right.asksFor, ← left.2.want_protos, ← left.asksFor]
    exact effect.disabled named names off

theorem stepEffect_decode (nak : AuthNak) (w : FsmWorld Link)
    (listed : ∀ entry, some entry ∈ w.layer.lcp.want_protos → entry ∈ gLcpAuthProtos) :
    StepEffect w.layer nak (lcpDecodeAuthproto .nak nak.opt w).layer := by
  unfold lcpDecodeAuthproto
  dsimp only
  cases names : (authOptPos nak.opt).bind (gLcpAuthProtos[·]?) with
  | none =>
      have unknown : nak.names = none := names
      exact ⟨rfl, fun _ => ⟨rfl, rfl⟩, by simp [unknown], by simp [unknown]⟩
  | some named =>
      have named_eq : nak.names = some named := names
      obtain ⟨pos, position, entry⟩ := Option.bind_eq_some_iff.mp names
      have here := idxOf_of_names position named_eq
      dsimp only
      cases on : w.layer.conf.options.enabled named.conf with
      | true =>
          rw [if_pos rfl]
          refine ⟨rfl, by simp [named_eq], ?_, by simp [named_eq, on]⟩
          intro other same _
          obtain rfl : named = other := Option.some.inj (named_eq.symm.trans same)
          have stands : NamesAuth (fun entry => entry = named) _ _ :=
            namesAuth_of_authOptPos names (decide_eq_true rfl) w.layer.lcp.want_alg
          obtain ⟨entry, member, same, proto, alg⟩ := stands
          obtain rfl := of_decide_eq_true same
          refine ⟨rfl, ?_⟩
          refine asksFor_of_entry member proto ?_
          intro chap
          exact alg (proto.symm.trans chap)
      | false =>
          rw [if_neg (by decide), position, Option.getD_some, here]
          have fewer : ∀ entry, some entry ∈
              w.layer.lcp.want_protos.set (gLcpAuthProtos.idxOf named) none →
              entry ∈ gLcpAuthProtos := by
            intro entry member
            rcases List.mem_or_eq_of_mem_set member with member | cleared
            · exact listed entry member
            · exact nomatch cleared
          cases next : (w.layer.lcp.want_protos.set (gLcpAuthProtos.idxOf named) none).findSome?
            id with
          | none =>
              refine ⟨rfl, by simp [named_eq], by simp [named_eq, on], ?_⟩
              intro other same _
              obtain rfl : named = other := Option.some.inj (named_eq.symm.trans same)
              refine ⟨rfl, ?_⟩
              change _ = Option.or (List.findSome? id (List.set _ _ _)) _
              rw [next]
              rfl
          | some turn =>
              refine ⟨rfl, by simp [named_eq], by simp [named_eq, on], ?_⟩
              intro other same _
              obtain rfl : named = other := Option.some.inj (named_eq.symm.trans same)
              refine ⟨rfl, ?_⟩
              change _ = Option.or (List.findSome? id (List.set _ _ _)) _
              rw [next]
              obtain ⟨slot, member, holds⟩ := List.exists_of_findSome?_eq_some next
              obtain rfl : slot = some turn := holds
              exact asksFor_of_entry (fewer turn member) rfl fun _ => rfl

theorem stepEffect_step (nak : AuthNak) (w : FsmWorld Link)
    (listed : ∀ entry, some entry ∈ w.layer.lcp.want_protos → entry ∈ gLcpAuthProtos) :
    StepEffect w.layer nak (step w nak).layer := by
  have before := untouched_others (fun other member =>
    nak.others other (List.mem_append_left nak.after member)) w
  unfold step lcpDecodeConfig
  rw [if_neg nofun]
  dsimp only
  rw [List.foldl_append, List.foldl_cons]
  generalize nak.before.foldl (fun w opt => lcpDecodeOption .nak opt w) w = w' at before
  have decode : lcpDecodeOption .nak nak.opt w' = lcpDecodeAuthproto .nak nak.opt w' := by
    unfold lcpDecodeOption
    rw [nak.authproto]
    rfl
  have after := untouched_others (fun other member =>
    nak.others other (List.mem_append_right nak.before member)) (lcpDecodeOption .nak nak.opt w')
  refine StepEffect.of_untouched ?_ before after
  rw [decode]
  refine stepEffect_decode nak w' ?_
  rw [before.2.want_protos]
  exact listed

end Step

section Configure

theorem lcpRequestAuth_chosen (options : OptInfo) {want_auth : UInt16} (chosen : want_auth ≠ 0)
    (want_alg : UInt8) (protos : List LcpAuthProto) :
    lcpRequestAuth options protos want_auth want_alg = (want_auth, want_alg,
      protos.map fun entry => if options.enabled entry.conf then some entry else none) := by
  induction protos with
  | nil => rfl
  | cons first rest ih =>
      have later : ¬ (options.enabled first.conf && want_auth == 0) = true := by
        simp [chosen]
      rw [lcpRequestAuth, if_neg later, ih]
      rfl

/-- The loop asks for the first enabled protocol and keeps the others at their places. -/
theorem lcpRequestAuth_eq (options : OptInfo) {protos : List LcpAuthProto}
    (listed : ∀ entry ∈ protos, entry ∈ gLcpAuthProtos) (distinct : protos.Nodup) :
    let enabled := protos.filter fun entry => options.enabled entry.conf
    lcpRequestAuth options protos 0 0 =
      ((enabled.head?.map (·.proto)).getD 0, (enabled.head?.map (·.alg)).getD 0,
        protos.map fun entry => if entry ∈ enabled.tail then some entry else none) := by
  induction protos with
  | nil => rfl
  | cons first rest ih =>
      obtain ⟨fresh, distinct⟩ := List.nodup_cons.mp distinct
      have later := ih (fun entry member => listed entry (List.mem_cons_of_mem first member))
        distinct
      dsimp only at later ⊢
      cases on : options.enabled first.conf with
      | false =>
          have absent : first ∉ (rest.filter fun entry => options.enabled entry.conf).tail := by
            intro member
            exact fresh (List.mem_filter.mp (List.mem_of_mem_tail member)).1
          rw [lcpRequestAuth, on, Bool.false_and, if_neg (by decide), later]
          simp [on, absent]
      | true =>
          have chosen := proto_ne_zero (listed first List.mem_cons_self)
          have places : ∀ entry ∈ rest, (if options.enabled entry.conf then some entry else none) =
              if entry ∈ rest.filter fun entry => options.enabled entry.conf then some entry
              else none := by
            intro entry member
            simp [List.mem_filter, member]
          have unset : (true && (0 : UInt16) == 0) = true := by decide
          rw [lcpRequestAuth, on, if_pos unset, lcpRequestAuth_chosen options chosen,
            List.map_congr_left places]
          simp [on, fresh]

def waitingList (options : OptInfo) : List (Option LcpAuthProto) :=
  lcpPossibleProtos.map fun entry => if entry ∈ waiting options then some entry else none

def preferred (options : OptInfo) : Option LcpAuthProto :=
  (lcpPossibleProtos.filter fun entry => options.enabled entry.conf).head?

theorem mem_waiting {options : OptInfo} {entry : LcpAuthProto} (member : entry ∈ waiting options) :
    entry ∈ lcpPossibleProtos ∧ options.enabled entry.conf = true := by
  have filtered := List.mem_filter.mp (List.mem_of_mem_tail member)
  exact ⟨filtered.1, filtered.2⟩

theorem mem_waitingList {options : OptInfo} {entry : LcpAuthProto} :
    some entry ∈ waitingList options ↔ entry ∈ waiting options := by
  unfold waitingList
  rw [List.mem_map]
  constructor
  · rintro ⟨other, -, place⟩
    split_ifs at place with waits
    cases place
    exact waits
  · intro waits
    exact ⟨entry, (mem_waiting waits).1, if_pos waits⟩

theorem filter_mem_of_sublist {part whole : List LcpAuthProto} (sublist : part.Sublist whole)
    (distinct : whole.Nodup) : (whole.filter fun entry => entry ∈ part) = part := by
  induction sublist with
  | slnil => rfl
  | cons first sublist ih =>
      obtain ⟨fresh, distinct⟩ := List.nodup_cons.mp distinct
      have absent : first ∉ _ := fun member => fresh (sublist.subset member)
      rw [List.filter_cons_of_neg (by simpa using absent)]
      exact ih distinct
  | cons_cons first sublist ih =>
      obtain ⟨fresh, distinct⟩ := List.nodup_cons.mp distinct
      rw [List.filter_cons_of_pos (by simp)]
      refine congrArg (first :: ·) ?_
      refine Eq.trans (List.filter_congr ?_) (ih distinct)
      intro entry member
      have other : entry ≠ first := fun same => fresh (same ▸ member)
      simp [other]

/-- The first place that is filled holds the second enabled protocol. -/
theorem findSome_waitingList (options : OptInfo) :
    (waitingList options).findSome? id = (waiting options).head? := by
  have sublist : (waiting options).Sublist lcpPossibleProtos :=
    (List.tail_sublist _).trans List.filter_sublist
  conv_rhs => rw [← filter_mem_of_sublist sublist (by decide)]
  rw [List.head?_filter]
  unfold waitingList
  rw [List.findSome?_map, List.find?_eq_findSome?_guard]
  congr 1
  funext entry
  by_cases waits : entry ∈ waiting options
  · simp [waits, Option.guard]
  · simp [waits, Option.guard]

theorem enabled_cases {options : OptInfo} {entry : LcpAuthProto} (listed : entry ∈ gLcpAuthProtos)
    (on : options.enabled entry.conf = true) :
    preferred options = some entry ∨ entry ∈ waiting options := by
  have member : entry ∈ lcpPossibleProtos.filter fun entry => options.enabled entry.conf :=
    List.mem_filter.mpr ⟨(lcpPossibleProtos_mem entry).mpr listed, on⟩
  unfold preferred waiting
  cases enabled : lcpPossibleProtos.filter fun entry => options.enabled entry.conf with
  | nil => simp [enabled] at member
  | cons first rest =>
      rw [enabled] at member
      rcases List.mem_cons.mp member with rfl | later
      · exact .inl rfl
      · exact .inr later

theorem not_mem_waiting {options : OptInfo} {entry : LcpAuthProto}
    (first : preferred options = some entry) : entry ∉ waiting options := by
  have distinct : (lcpPossibleProtos.filter fun entry => options.enabled entry.conf).Nodup :=
    List.Pairwise.filter _ (by decide)
  unfold preferred at first
  unfold waiting
  cases enabled : lcpPossibleProtos.filter fun entry => options.enabled entry.conf with
  | nil => exact List.not_mem_nil
  | cons head rest =>
      rw [enabled] at first distinct
      obtain rfl : head = entry := Option.some.inj first
      exact (List.nodup_cons.mp distinct).1

theorem start_lcpConfigure (w : FsmWorld Link) :
    let options := w.layer.conf.options
    (lcpConfigure w).layer.conf = w.layer.conf ∧
      (lcpConfigure w).layer.lcp.want_protos = waitingList options ∧
      (lcpConfigure w).layer.lcp.asksFor = preferred options := by
  intro options
  have loop := lcpRequestAuth_eq options (fun entry => (lcpPossibleProtos_mem entry).mp)
    (by decide)
  dsimp only at loop
  have want_auth : (lcpConfigure w).layer.lcp.want_auth = _ := congrArg (·.1) loop
  have want_alg : (lcpConfigure w).layer.lcp.want_alg = _ := congrArg (·.2.1) loop
  have want_protos : (lcpConfigure w).layer.lcp.want_protos = _ := congrArg (·.2.2) loop
  refine ⟨lcpConfigure_conf w, want_protos, ?_⟩
  unfold preferred
  cases first : (lcpPossibleProtos.filter fun entry => options.enabled entry.conf).head? with
  | none =>
      rw [first] at want_auth
      refine List.find?_eq_none.mpr ?_
      intro entry member
      have proto := proto_ne_zero member
      rw [want_auth]
      simp [proto]
  | some entry =>
      rw [first] at want_auth want_alg
      have member := List.mem_of_mem_head? first
      refine asksFor_of_entry ?_ want_auth.symm fun _ => want_alg.symm
      exact (lcpPossibleProtos_mem entry).mp (List.mem_filter.mp member).1

end Configure

section Displacement

variable {options : OptInfo} {named : LcpAuthProto}

theorem waitingList_get (options : OptInfo) (pos : Nat) :
    (waitingList options)[pos]? = lcpPossibleProtos[pos]?.map fun entry =>
      if entry ∈ waiting options then some entry else none := by
  unfold waitingList
  rw [List.getElem?_map]

/-- Where nothing waits at the position, clearing it changes nothing. -/
theorem set_of_not_displaces (free : ¬ Displaces options named) :
    (waitingList options).set (gLcpAuthProtos.idxOf named) none = waitingList options := by
  refine List.ext_getElem? ?_
  intro pos
  rw [List.getElem?_set]
  split_ifs with here short
  · subst here
    have slot := waitingList_get options (gLcpAuthProtos.idxOf named)
    rw [List.getElem?_eq_getElem short] at slot ⊢
    cases entry : lcpPossibleProtos[gLcpAuthProtos.idxOf named]? with
    | none =>
        rw [entry] at slot
        cases slot
    | some other =>
        have idle : other ∉ waiting options := fun waits => free ⟨other, waits, entry⟩
        rw [entry, Option.map_some, if_neg idle] at slot
        exact slot.symm
  · subst here
    exact (List.getElem?_eq_none (Nat.le_of_not_lt short)).symm
  · rfl

theorem not_mem_set_of_displaces {other : LcpAuthProto}
    (entry : lcpPossibleProtos[gLcpAuthProtos.idxOf named]? = some other) :
    some other ∉ (waitingList options).set (gLcpAuthProtos.idxOf named) none := by
  intro member
  obtain ⟨pos, place⟩ := List.mem_iff_getElem?.mp member
  rw [List.getElem?_set] at place
  split_ifs at place with here short
  · cases place
  · rw [waitingList_get] at place
    obtain ⟨found, same, slot⟩ := Option.map_eq_some_iff.mp place
    split_ifs at slot
    cases slot
    have distinct : lcpPossibleProtos.Nodup := by decide
    obtain ⟨below, at_named⟩ := List.getElem?_eq_some_iff.mp entry
    obtain ⟨below', at_pos⟩ := List.getElem?_eq_some_iff.mp same
    exact here ((List.getElem_inj distinct).mp (at_named.trans at_pos.symm))

end Displacement

section Runs

/-- Where a sequence of Naks stands that was handled well so far. `asked` is being asked for,
and `spare` is still to come. -/
structure Going (options : OptInfo) (spare : Option LcpAuthProto) (asked : LcpAuthProto)
    (history : History) (l : Link) : Prop where
  conf : l.conf.options = options
  list : l.lcp.want_protos = waitingList options
  asks : l.lcp.asksFor = some asked
  enabled : options.enabled asked.conf = true
  fresh : ∀ next, spare = some next → (waiting options).head? = some next ∧ next ≠ asked ∧
    next ∉ history.nakd ∧ history.tried.count next ≤ history.suggested.count next
  spent : spare = none → ∀ next, (waiting options).head? = some next →
    next = asked ∨ next ∈ history.nakd
  once : ∀ entry, history.tried.count entry ≤ history.suggested.count entry + 1
  tried : ∀ entry, preferred options = some entry → entry ∈ history.tried

variable {options : OptInfo} {spare : Option LcpAuthProto} {asked : LcpAuthProto}
  {history : History} {w : FsmWorld Link} {nak : AuthNak} {named : LcpAuthProto}

theorem Going.effect (going : Going options spare asked history w.layer) (nak : AuthNak) :
    StepEffect w.layer nak (step w nak).layer := by
  refine stepEffect_step nak w ?_
  intro entry member
  rw [going.list] at member
  exact (lcpPossibleProtos_mem entry).mp (mem_waiting (mem_waitingList.mp member)).1

/-- A protocol that nobody knows is no reason for the code to stop asking for the same. -/
theorem Going.not_sound_unknown (going : Going options spare asked history w.layer)
    (names : nak.names = none) :
    ¬ StepSound (history.next w.layer nak (step w nak).layer) w.layer nak (step w nak).layer := by
  intro sound
  have same := ((going.effect nak).unknown names).2.trans going.asks
  refine sound.left_alone asked same ?_
  simp [History.next, going.asks, names]

/-- The code stays on course when the list is left as it was and the protocol it turns to was
not turned down. -/
theorem Going.stepSound (going : Going options spare asked history w.layer) {next : LcpAuthProto}
    (list : (step w nak).layer.lcp.want_protos = waitingList options)
    (asks : (step w nak).layer.lcp.asksFor = some next)
    (taken : ∀ named, nak.names = some named → options.enabled named.conf = true → next = named)
    (unused : next ∉ (history.next w.layer nak (step w nak).layer).nakd)
    (once : ∀ entry, (history.next w.layer nak (step w nak).layer).tried.count entry ≤
      (history.next w.layer nak (step w nak).layer).suggested.count entry + 1) :
    StepSound (history.next w.layer nak (step w nak).layer) w.layer nak (step w nak).layer where
  kept _ entry _ member := by
    rw [list, ← going.list]
    exact member
  taken named names on := by
    rw [going.conf] at on
    rw [asks, taken named names on]
  left_alone entry same := by
    obtain rfl : next = entry := Option.some.inj (asks.symm.trans same)
    exact unused
  once := once
  none_skipped entry listed enabled := by
    rw [going.conf] at enabled
    rw [list]
    rcases enabled_cases listed enabled with first | waits
    · exact .inl (List.mem_append_left _ (going.tried entry first))
    · exact .inr (mem_waitingList.mpr waits)

theorem Going.suggested (going : Going options spare asked history w.layer)
    (names : nak.names = some named) (on : options.enabled named.conf = true) :
    let after := (step w nak).layer
    StepSound (history.next w.layer nak after) w.layer nak after ∧
      Going options (if spare = some named then none else spare) named
        (history.next w.layer nak after) after := by
  intro after
  have effect := going.effect nak
  have on' := on
  rw [← going.conf] at on'
  obtain ⟨list, asks⟩ := effect.enabled named names on'
  have asks : after.lcp.asksFor = some named := asks
  have list : after.lcp.want_protos = waitingList options := list.trans going.list
  have dropped : named ∉ (history.next w.layer nak after).nakd := by
    simp [History.next, names]
  have once : ∀ entry, (history.next w.layer nak after).tried.count entry ≤
      (history.next w.layer nak after).suggested.count entry + 1 := by
    intro entry
    have before := going.once entry
    simp only [History.next, asks, names, Option.toList_some, List.count_append]
    omega
  have tried : ∀ entry, preferred options = some entry →
      entry ∈ (history.next w.layer nak after).tried := fun entry first =>
    List.mem_append_left _ (going.tried entry first)
  have taken : ∀ other, nak.names = some other → options.enabled other.conf = true →
      named = other := fun other same _ => Option.some.inj (names.symm.trans same)
  refine ⟨going.stepSound list asks taken dropped once, effect.conf ▸ going.conf, list, asks, on,
    ?_, ?_, once, tried⟩
  · intro next left_
    split_ifs at left_ with used
    obtain ⟨head, other, unused, few⟩ := going.fresh next left_
    have distinct : next ≠ named := fun same => used (same ▸ left_)
    refine ⟨head, distinct, ?_, ?_⟩
    · simp [History.next, going.asks, unused, other]
    · simp only [History.next, asks, names, Option.toList_some, List.count_append]
      omega
  · intro none_left next head
    by_cases same : next = named
    · exact .inl same
    · right
      have before : next = asked ∨ next ∈ history.nakd := by
        split_ifs at none_left with used
        · have first := (going.fresh named used).1
          exact absurd (Option.some.inj (head.symm.trans first)) same
        · exact going.spent none_left next head
      rcases before with rfl | earlier
      · simp [History.next, going.asks, names, same]
      · simp [History.next, earlier, names, same]

/-- After a protocol that is not enabled the code turns to the one that is next in the list,
whether or not that was asked for before. -/
theorem Going.disabled (going : Going options spare asked history w.layer)
    (names : nak.names = some named) (off : options.enabled named.conf = false)
    (free : ¬ Displaces options named) :
    (step w nak).layer.lcp.want_protos = waitingList options ∧
      (step w nak).layer.lcp.asksFor = (waiting options).head?.or (some asked) := by
  rw [← going.conf] at off
  obtain ⟨list, asks⟩ := (going.effect nak).disabled named names off
  rw [going.list, set_of_not_displaces free] at list
  rw [list, going.asks, findSome_waitingList] at asks
  exact ⟨list, asks⟩

theorem Going.not_sound_displaced (going : Going options spare asked history w.layer)
    (names : nak.names = some named) (off : options.enabled named.conf = false)
    (lost : Displaces options named) :
    ¬ StepSound (history.next w.layer nak (step w nak).layer) w.layer nak (step w nak).layer := by
  intro sound
  obtain ⟨other, waits, entry⟩ := lost
  rw [← going.conf] at off
  obtain ⟨list, -⟩ := (going.effect nak).disabled named names off
  have on : w.layer.conf.options.enabled other.conf = true := by
    rw [going.conf]
    exact (mem_waiting waits).2
  have listed : some other ∈ w.layer.lcp.want_protos := by
    rw [going.list]
    exact mem_waitingList.mpr waits
  have off' : ∀ found, nak.names = some found →
      w.layer.conf.options.enabled found.conf = false := by
    intro found same
    obtain rfl : named = found := Option.some.inj (names.symm.trans same)
    exact off
  have kept := sound.kept off' other on listed
  rw [list, going.list] at kept
  exact not_mem_set_of_displaces entry kept

/-- With nothing left to turn to, the code asks again for what was turned down. -/
theorem Going.not_sound_spent (going : Going options none asked history w.layer)
    (names : nak.names = some named) (off : options.enabled named.conf = false)
    (free : ¬ Displaces options named) :
    ¬ StepSound (history.next w.layer nak (step w nak).layer) w.layer nak (step w nak).layer := by
  intro sound
  obtain ⟨-, asks⟩ := going.disabled names off free
  have again {entry : LcpAuthProto} (on : options.enabled entry.conf = true)
      (turned_down : entry = asked ∨ entry ∈ history.nakd) :
      entry ∈ (history.next w.layer nak (step w nak).layer).nakd := by
    have other : entry ≠ named := by
      rintro rfl
      rw [on] at off
      cases off
    rcases turned_down with rfl | earlier
    · simp [History.next, going.asks, names, other]
    · simp [History.next, earlier, names, other]
  cases head : (waiting options).head? with
  | none =>
      rw [head] at asks
      exact sound.left_alone asked asks (again going.enabled (.inl rfl))
  | some next =>
      rw [head] at asks
      have on := (mem_waiting (List.mem_of_mem_head? head)).2
      exact sound.left_alone next asks (again on (going.spent rfl next head))

theorem Going.turns (going : Going options spare asked history w.layer)
    (names : nak.names = some named) (off : options.enabled named.conf = false)
    (free : ¬ Displaces options named) {next : LcpAuthProto} (left_ : spare = some next) :
    let after := (step w nak).layer
    StepSound (history.next w.layer nak after) w.layer nak after ∧
      Going options none next (history.next w.layer nak after) after := by
  intro after
  obtain ⟨head, other, unused, few⟩ := going.fresh next left_
  obtain ⟨list, asks⟩ := going.disabled names off free
  rw [head] at asks
  have list : after.lcp.want_protos = waitingList options := list
  have asks : after.lcp.asksFor = some next := asks
  have on := (mem_waiting (List.mem_of_mem_head? head)).2
  have unused : next ∉ (history.next w.layer nak after).nakd := by
    simp [History.next, going.asks, unused, other]
  have once : ∀ entry, (history.next w.layer nak after).tried.count entry ≤
      (history.next w.layer nak after).suggested.count entry + 1 := by
    intro entry
    have before := going.once entry
    simp only [History.next, asks, names, Option.toList_some, List.count_append,
      List.count_singleton]
    by_cases same : next = entry
    · subst same
      simp only [beq_self_eq_true, if_true]
      omega
    · simp only [beq_iff_eq, same, if_false]
      omega
  have tried : ∀ entry, preferred options = some entry →
      entry ∈ (history.next w.layer nak after).tried := fun entry first =>
    List.mem_append_left _ (going.tried entry first)
  have taken : ∀ found, nak.names = some found → options.enabled found.conf = true →
      next = found := by
    intro found same on'
    obtain rfl : named = found := Option.some.inj (names.symm.trans same)
    rw [off] at on'
    cases on'
  have conf := (congrArg (·.options) (going.effect nak).conf).trans going.conf
  refine ⟨going.stepSound list asks taken unused once, conf, list, asks, on, nofun, ?_, once, tried⟩
  intro _ entry first
  exact .inl (Option.some.inj (first.symm.trans head))

/-- From such a state on, the Naks do what they should if and only if the code handles them. -/
theorem Going.sound_iff (going : Going options spare asked history w.layer) (naks : List AuthNak) :
    Sound history w naks ↔ Handled options spare naks := by
  induction naks generalizing spare asked history w with
  | nil => exact Iff.rfl
  | cons nak naks ih =>
      unfold Sound Handled
      dsimp only
      cases names : nak.names with
      | none => exact ⟨fun sound => going.not_sound_unknown names sound.1, False.elim⟩
      | some named =>
          dsimp only
          cases on : options.enabled named.conf with
          | true =>
              obtain ⟨sound, later⟩ := going.suggested names on
              rw [if_pos rfl, ← ih later]
              exact and_iff_right sound
          | false =>
              rw [if_neg (by decide)]
              by_cases lost : Displaces options named
              · exact ⟨fun sound => absurd sound.1 (going.not_sound_displaced names on lost),
                  fun handled => absurd lost handled.2.1⟩
              · cases left_ : spare with
                | none =>
                    subst left_
                    exact ⟨fun sound => absurd sound.1 (going.not_sound_spent names on lost),
                      fun handled => nomatch handled.1⟩
                | some next =>
                    obtain ⟨sound, later⟩ := going.turns names on lost left_
                    rw [← ih later]
                    exact ⟨fun both => ⟨rfl, lost, both.2⟩, fun both => ⟨sound, both.2.2⟩⟩

/-- Where no protocol is enabled there is none to ask for. -/
structure Idle (options : OptInfo) (history : History) (l : Link) : Prop where
  conf : l.conf.options = options
  list : l.lcp.want_protos = waitingList options
  asks : l.lcp.asksFor = none
  tried : history.tried = []

theorem Idle.sound {options : OptInfo}
    (off : ∀ entry ∈ gLcpAuthProtos, options.enabled entry.conf = false) {history : History}
    {w : FsmWorld Link} (idle : Idle options history w.layer) (naks : List AuthNak) :
    Sound history w naks := by
  have nobody : waiting options = [] := by
    refine List.eq_nil_iff_forall_not_mem.mpr ?_
    intro entry member
    obtain ⟨listed, on⟩ := mem_waiting member
    rw [off entry ((lcpPossibleProtos_mem entry).mp listed)] at on
    cases on
  induction naks generalizing history w with
  | nil => trivial
  | cons nak naks ih =>
      have effect : StepEffect w.layer nak (step w nak).layer := by
        refine stepEffect_step nak w ?_
        intro entry member
        rw [idle.list, mem_waitingList, nobody] at member
        cases member
      have after : (step w nak).layer.lcp.want_protos = waitingList options ∧
          (step w nak).layer.lcp.asksFor = none := by
        cases names : nak.names with
        | none =>
            obtain ⟨list, asks⟩ := effect.unknown names
            exact ⟨list.trans idle.list, asks.trans idle.asks⟩
        | some named =>
            have off' := off named (mem_of_names names)
            rw [← idle.conf] at off'
            obtain ⟨list, asks⟩ := effect.disabled named names off'
            have free : ¬ Displaces options named := by
              rintro ⟨other, waits, -⟩
              rw [nobody] at waits
              cases waits
            rw [idle.list, set_of_not_displaces free] at list
            rw [list, findSome_waitingList, nobody, idle.asks] at asks
            exact ⟨list, asks⟩
      obtain ⟨list, asks⟩ := after
      have tried : (history.next w.layer nak (step w nak).layer).tried = [] := by
        simp [History.next, idle.tried, asks]
      refine ⟨⟨?_, ?_, ?_, ?_, ?_⟩, ih ⟨?_, list, asks, tried⟩⟩
      · intro _ entry _ member
        rw [list, ← idle.list]
        exact member
      · intro named names on
        rw [idle.conf, off named (mem_of_names names)] at on
        cases on
      · intro entry same
        rw [asks] at same
        cases same
      · intro entry
        rw [tried]
        exact Nat.zero_le _
      · intro entry listed on
        rw [idle.conf, off entry listed] at on
        cases on
      · exact (congrArg (·.options) effect.conf).trans idle.conf

/-- After `LcpConfigure` every Nak that names an authentication protocol does what it should
if and only if no protocol is enabled, or the Naks are such that the code handles them. -/
theorem authNaks_sound_iff (w : FsmWorld Link) (naks : List AuthNak) :
    let options := w.layer.conf.options
    Sound (.start (lcpConfigure w).layer) (lcpConfigure w) naks ↔
      (∀ entry ∈ gLcpAuthProtos, options.enabled entry.conf = false) ∨
        Handled options (waiting options).head? naks := by
  intro options
  obtain ⟨conf, list, asks⟩ := start_lcpConfigure w
  have conf : (lcpConfigure w).layer.conf.options = options := congrArg (·.options) conf
  cases first : preferred options with
  | none =>
      have off : ∀ entry ∈ gLcpAuthProtos, options.enabled entry.conf = false := by
        intro entry listed
        have empty := List.head?_eq_none_iff.mp first
        have absent := List.filter_eq_nil_iff.mp empty entry ((lcpPossibleProtos_mem entry).mpr listed)
        simpa using absent
      have idle : Idle options (.start (lcpConfigure w).layer) (lcpConfigure w).layer := by
        refine ⟨conf, list, asks.trans first, ?_⟩
        change Option.toList _ = _
        rw [asks, first]
        rfl
      exact ⟨fun _ => .inl off, fun _ => idle.sound off naks⟩
  | some asked =>
      have asks := asks.trans first
      have member := List.mem_filter.mp (List.mem_of_mem_head? first)
      have listed := (lcpPossibleProtos_mem asked).mp member.1
      have on : options.enabled asked.conf = true := member.2
      have tried : (History.start (lcpConfigure w).layer).tried = [asked] := by
        change Option.toList _ = _
        rw [asks]
        rfl
      have going : Going options (waiting options).head? asked
          (.start (lcpConfigure w).layer) (lcpConfigure w).layer := by
        refine ⟨conf, list, asks, on, ?_, ?_, ?_, ?_⟩
        · intro next head
          have other : next ≠ asked := by
            rintro rfl
            exact not_mem_waiting first (List.mem_of_mem_head? head)
          refine ⟨head, other, List.not_mem_nil, ?_⟩
          rw [tried]
          simp [other.symm]
        · intro empty next head
          rw [empty] at head
          cases head
        · intro entry
          rw [tried, List.count_singleton]
          split_ifs
          · exact Nat.le_add_left _ _
          · exact Nat.zero_le _
        · intro entry same
          rw [tried, Option.some.inj (same.symm.trans first)]
          exact List.mem_singleton_self asked
      rw [going.sound_iff]
      constructor
      · exact .inr
      · rintro (off | handled)
        · rw [off asked listed] at on
          cases on
        · exact handled

/-- A link on which MS-CHAP in both versions is enabled and MD5 is not. -/
def microsoftOnly : FsmWorld Link :=
  lcpInit { LinkSetup.bare with
    conf := { LinkSetup.bare.conf with
      options := { enable := 1 <<< linkConfChapMSv1.toUInt32 ||| 1 <<< linkConfChapMSv2.toUInt32,
                   accept := 0 } } }

/-- A Nak that asks for MD5 in place of MS-CHAP. -/
def nakMd5 : AuthNak where
  before := []
  opt := lcpAuthProtoNak lcpAuthChapMd5
  after := []
  authproto := by decide
  others := nofun

/-- MD5 is not enabled, and what the code strikes from the list for it is MS-CHAP. -/
theorem authNaks_not_sound_md5 :
    microsoftOnly.layer.conf.options.enabled linkConfChapMSv1 = true ∧
      microsoftOnly.layer.conf.options.enabled linkConfChapMd5 = false ∧
      some lcpAuthChapMSv1 ∈ (lcpConfigure microsoftOnly).layer.lcp.want_protos ∧
      some lcpAuthChapMSv1 ∉
        (step (lcpConfigure microsoftOnly) nakMd5).layer.lcp.want_protos ∧
      ¬ Sound (.start (lcpConfigure microsoftOnly).layer) (lcpConfigure microsoftOnly) [nakMd5] := by
  have names : nakMd5.names = some lcpAuthChapMd5 := by decide
  have before : some lcpAuthChapMSv1 ∈ (lcpConfigure microsoftOnly).layer.lcp.want_protos := by
    decide
  have after : some lcpAuthChapMSv1 ∉
      (step (lcpConfigure microsoftOnly) nakMd5).layer.lcp.want_protos := by
    decide
  refine ⟨by decide, by decide, before, after, ?_⟩
  rintro ⟨sound, -⟩
  refine after (sound.kept ?_ lcpAuthChapMSv1 (by decide) before)
  intro named same
  obtain rfl : lcpAuthChapMd5 = named := Option.some.inj (names.symm.trans same)
  decide

end Runs

end AuthNaks

end Mpd
