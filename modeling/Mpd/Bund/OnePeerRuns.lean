import Mpd.Bund.OnePeer

/-! A bundle is one peer, in every run whose joins compare what the manual of `BundJoin`
says that they compare. -/

set_option autoImplicit false

namespace Mpd.Membership

section
variable {n : Nat}

/-- The discriminators are equal in class, length and bytes. -/
structure SameDiscrim (d1 d2 : DiscrimBuf) : Prop where
  «class» : d1.class = d2.class
  len : d1.len = d2.len
  bytes : d1.bytes.take d1.len.toNat = d2.bytes.take d2.len.toNat

theorem SameDiscrim.refl (d : DiscrimBuf) : SameDiscrim d d := ⟨rfl, rfl, rfl⟩

theorem SameDiscrim.symm {d1 d2 : DiscrimBuf} (same : SameDiscrim d1 d2) : SameDiscrim d2 d1 :=
  ⟨same.class.symm, same.len.symm, same.bytes.symm⟩

theorem SameDiscrim.trans {d1 d2 d3 : DiscrimBuf} (left : SameDiscrim d1 d2)
    (right : SameDiscrim d2 d3) : SameDiscrim d1 d3 :=
  ⟨left.class.trans right.class, left.len.trans right.len, left.bytes.trans right.bytes⟩

/-- The bundles and links, with what each link brought along when it last entered the network
phase, and `pppConfig.bund.enableMultilink` of each bundle. -/
structure PeerHistory (n : Nat) where
  world : BundWorld n
  brought : Nat → Option JoinFacts
  enableMultilink : Nat → Bool

def entering (w : BundWorld n) : BundEvent n → Option (Nat × JoinFacts)
  | .enterNetwork l facts =>
      if !w.aborted && (w.links l).any (fun link => !link.tmpl && !link.network) then
        some (l, facts)
      else none
  | _ => none

def enterPhase (w : BundWorld n) (l : Nat) : BundWorld n :=
  w.mapLink l fun link => { link with network := true }

def opensBund (w : BundWorld n) (l : Nat) (facts : JoinFacts) : Option Nat :=
  (bundJoinTarget (enterPhase w l) l facts).filter fun p =>
    facts.linkNgJoin && (w.bunds p).all (·.n_up == 0)

def peerStep [NeZero n] (s : PeerHistory n) (event : BundEvent n) : PeerHistory n where
  world := bundStep s.world event
  brought :=
    match entering s.world event with
    | some (l, facts) => Function.update s.brought l (some facts)
    | none => s.brought
  enableMultilink :=
    match entering s.world event with
    | some (l, facts) =>
        match opensBund s.world l facts with
        | some p =>
            Function.update s.enableMultilink p (facts.peer_mrru != 0 && facts.want_mrru != 0)
        | none => s.enableMultilink
    | none => s.enableMultilink

def peerStart (n : Nat) : PeerHistory n where
  world := bundStart n
  brought _ := none
  enableMultilink _ := false

structure LinksOfOnePeer (f₁ f₂ : JoinFacts) : Prop where
  first : f₁.peer_mrru ≠ 0 ∧ f₁.want_mrru ≠ 0
  second : f₂.peer_mrru ≠ 0 ∧ f₂.want_mrru ≠ 0
  authname : f₁.authname = f₂.authname
  discrim : SameDiscrim f₁.peer_discrim f₂.peer_discrim

/-- A bundle with more than one link up is one peer, and multilink is negotiated for it. -/
def OnePeer (s : PeerHistory n) : Prop :=
  ∀ p l₁ l₂, l₁ ≠ l₂ → UpIn s.world p l₁ → UpIn s.world p l₂ →
    (∃ b, s.world.bunds p = some b ∧ b.peer_mrru ≠ 0 ∧ s.enableMultilink p = true) ∧
    ∃ f₁ f₂, s.brought l₁ = some f₁ ∧ s.brought l₂ = some f₂ ∧ LinksOfOnePeer f₁ f₂

structure Member (multilink : Bool) (b : Bundle n) (f : JoinFacts) : Prop where
  authname : f.authname = b.authname
  multilink : multilink = true →
    b.peer_mrru ≠ 0 ∧ f.peer_mrru ≠ 0 ∧ f.want_mrru ≠ 0 ∧ SameDiscrim f.peer_discrim b.peer_discrim

/-- The counter of a bundle is never below its links that are up, these are members, and
where there are several the bundle has multilink. -/
structure OnePeerInv (s : PeerHistory n) : Prop where
  kept : WellKept s.world
  count : ∀ p b (ls : List Nat), s.world.bunds p = some b → ls.Nodup →
    (∀ l ∈ ls, UpIn s.world p l) → ls.length ≤ b.n_up.toNat
  member : ∀ p b l, s.world.bunds p = some b → UpIn s.world p l →
    ∃ f, s.brought l = some f ∧ Member (s.enableMultilink p) b f
  several : ∀ p l₁ l₂, l₁ ≠ l₂ → UpIn s.world p l₁ → UpIn s.world p l₂ →
    s.enableMultilink p = true

theorem Member.same {multilink : Bool} {b c : Bundle n} {f : JoinFacts}
    (member : Member multilink b f) (same : SamePeer b c) : Member multilink c f := by
  obtain ⟨authname, negotiated⟩ := member
  refine ⟨authname.trans same.authname.symm, fun on => ?_⟩
  rw [same.peer_mrru, same.peer_discrim]
  exact negotiated on

theorem OnePeerInv.known {s : PeerHistory n} (inv : OnePeerInv s) {p l : Nat}
    (up : UpIn s.world p l) : ∃ b, s.world.bunds p = some b := by
  obtain ⟨link, atLink, -, points⟩ := up
  obtain ⟨b, atBund, -⟩ := (inv.kept.links l link atLink).known p points
  exact ⟨b, atBund⟩

theorem OnePeerInv.plain {s : PeerHistory n} (inv : OnePeerInv s) {l p : Nat} {link : BundLink n}
    {b : Bundle n} (atLink : s.world.links l = some link) (points : link.bund = some p)
    (atBund : s.world.bunds p = some b) : b.tmpl = false := by
  obtain ⟨c, before, plain⟩ := (inv.kept.links l link atLink).known p points
  rw [atBund, Option.some.injEq] at before
  rw [before]
  exact plain

/-- The invariant says that a bundle is one peer. -/
theorem OnePeerInv.onePeer {s : PeerHistory n} (inv : OnePeerInv s) : OnePeer s := by
  intro p l₁ l₂ other first second
  obtain ⟨b, atBund⟩ := inv.known first
  have on := inv.several p l₁ l₂ other first second
  obtain ⟨f₁, brought₁, authname₁, negotiated₁⟩ := inv.member p b l₁ atBund first
  obtain ⟨f₂, brought₂, authname₂, negotiated₂⟩ := inv.member p b l₂ atBund second
  obtain ⟨mrru, peer₁, want₁, discrim₁⟩ := negotiated₁ on
  obtain ⟨-, peer₂, want₂, discrim₂⟩ := negotiated₂ on
  exact ⟨⟨b, atBund, mrru, on⟩, f₁, f₂, brought₁, brought₂, ⟨peer₁, want₁⟩, ⟨peer₂, want₂⟩,
    authname₁.trans authname₂.symm, discrim₁.trans discrim₂.symm⟩

theorem onePeerInv_start : OnePeerInv (peerStart n) := by
  have no_bund : ∀ p b, (peerStart n).world.bunds p ≠ some b := fun _ _ found => by cases found
  have no_link : ∀ l link, (peerStart n).world.links l ≠ some link := fun _ _ found => by cases found
  refine ⟨⟨fun _ _ => rfl, ?_, ?_⟩, ?_, ?_, ?_⟩
  · exact fun p b found => absurd found (no_bund p b)
  · exact fun l link found => absurd found (no_link l link)
  · exact fun p b _ found => absurd found (no_bund p b)
  · exact fun p b _ found => absurd found (no_bund p b)
  · intro p l₁ l₂ _ up
    obtain ⟨link, found, -⟩ := up
    exact absurd found (no_link l₁ link)

theorem OnePeerInv.calm {s : PeerHistory n} (inv : OnePeerInv s) {v : BundWorld n}
    (calm : Calm s.world v) : OnePeerInv { s with world := v } := by
  refine ⟨calm.kept, fun p b ls found nodup up => ?_, fun p b l found up => ?_,
    fun p l₁ l₂ other first second =>
      inv.several p l₁ l₂ other (calm.ups p l₁ first) (calm.ups p l₂ second)⟩
  · rcases calm.bunds p b found with ⟨c, before, same⟩ | ⟨-, down, zero⟩
    · rw [same.n_up]
      exact inv.count p c ls before nodup fun l inside => calm.ups p l (up l inside)
    · cases ls with
      | nil => exact Nat.zero_le _
      | cons l ls => exact absurd (up l List.mem_cons_self) (down l)
  · rcases calm.bunds p b found with ⟨c, before, same⟩ | ⟨-, down, zero⟩
    · obtain ⟨f, brought, member⟩ := inv.member p c l before (calm.ups p l up)
      exact ⟨f, brought, member.same same⟩
    · exact absurd up (down l)

/-- Where the counter is at zero no link is up. -/
theorem OnePeerInv.down {s : PeerHistory n} (inv : OnePeerInv s) {p : Nat}
    (zero : (s.world.bunds p).all (·.n_up == 0) = true) (l : Nat) : ¬ UpIn s.world p l := by
  intro up
  obtain ⟨b, atBund⟩ := inv.known up
  rw [atBund, Option.all_some, beq_iff_eq] at zero
  have counted := inv.count p b [l] atBund (List.nodup_singleton l)
    fun m inside => (List.mem_singleton.mp inside) ▸ up
  rw [zero] at counted
  exact absurd counted (by simp)

/-- What a link brings along is noted before it joins. -/
theorem OnePeerInv.bring {s : PeerHistory n} (inv : OnePeerInv s) {l : Nat}
    (apart : ∀ p, ¬ UpIn s.world p l) (facts : JoinFacts) :
    OnePeerInv { s with brought := Function.update s.brought l (some facts) } := by
  refine ⟨inv.kept, inv.count, fun p b m found up => ?_, inv.several⟩
  obtain ⟨f, brought, member⟩ := inv.member p b m found up
  have other : m ≠ l := fun same => apart p (same ▸ up)
  exact ⟨f, (Function.update_of_ne other _ _).trans brought, member⟩

/-- A bundle without links up turns multilink on or off. -/
theorem OnePeerInv.enable {s : PeerHistory n} (inv : OnePeerInv s) {p : Nat}
    (down : ∀ l, ¬ UpIn s.world p l) (on : Bool) :
    OnePeerInv { s with enableMultilink := Function.update s.enableMultilink p on } := by
  refine ⟨inv.kept, inv.count, fun q b l found up => ?_, fun q l₁ l₂ other first second => ?_⟩
  · have elsewhere : q ≠ p := fun same => down l (same ▸ up)
    obtain ⟨f, brought, member⟩ := inv.member q b l found up
    refine ⟨f, brought, ?_⟩
    dsimp only
    rw [Function.update_of_ne elsewhere]
    exact member
  · have elsewhere : q ≠ p := fun same => down l₁ (same ▸ first)
    dsimp only
    rw [Function.update_of_ne elsewhere]
    exact inv.several q l₁ l₂ other first second

/-- A bundle without links up may forget its peer. -/
theorem OnePeerInv.forget {s : PeerHistory n} (inv : OnePeerInv s) {p : Nat}
    (down : ∀ l, ¬ UpIn s.world p l) {f : Bundle n → Bundle n}
    (n_up : ∀ b, (f b).n_up = b.n_up) (tmpl : ∀ b, (f b).tmpl = b.tmpl) :
    OnePeerInv { s with world := s.world.mapBund p f } := by
  refine ⟨inv.kept.mapBund p fun b _ isTemplate => ⟨(tmpl b).symm.trans isTemplate, n_up b⟩,
    fun q b ls found nodup up => ?_, fun q b l found up => ?_, inv.several⟩
  · obtain ⟨c, before, rfl⟩ := some_of_mapBund found
    have counted := inv.count q c ls before nodup up
    split_ifs
    · rwa [n_up]
    · exact counted
  · have elsewhere : q ≠ p := fun same => down l (same ▸ up)
    obtain ⟨c, before, rfl⟩ := some_of_mapBund found
    rw [if_neg elsewhere]
    exact inv.member q c l before up

section Leaving

/-- A link leaves its bundle, whose counter goes down by one. -/
theorem OnePeerInv.leave {s : PeerHistory n} (inv : OnePeerInv s) {l p : Nat} {b : Bundle n}
    {link : BundLink n} (atLink : s.world.links l = some link) (joined : link.joined_bund = true)
    (points : link.bund = some p) (atBund : s.world.bunds p = some b) (busy : b.n_up ≠ 0)
    {v : BundWorld n} (left : Bundle n) (gone : BundLink n)
    (links : v.links = Function.update s.world.links l (some gone))
    (bunds : v.bunds = Function.update s.world.bunds p (some left))
    (nextBund : v.nextBund = s.world.nextBund) (unjoined : gone.joined_bund = false)
    (unbound : gone.bund = none) (n_up : left.n_up = b.n_up - 1) (tmpl : left.tmpl = b.tmpl)
    (peer : left.peer_mrru = b.peer_mrru ∧ left.peer_discrim = b.peer_discrim ∧
      left.authname = b.authname) : OnePeerInv { s with world := v } := by
  have wasUp : UpIn s.world p l := ⟨link, atLink, joined, points⟩
  have plain := inv.plain atLink points atBund
  have ups (q m : Nat) (up : UpIn v q m) : m ≠ l ∧ UpIn s.world q m := by
    rcases upIn_update links up with ⟨-, isUp, -⟩ | other
    · rw [unjoined] at isUp
      exact nomatch isUp
    · exact other
  have positive : 0 < b.n_up.toNat := Nat.pos_of_ne_zero fun zero => busy (UInt16.toNat_inj.mp zero)
  have lost : left.n_up.toNat = b.n_up.toNat - 1 := by
    rw [n_up]
    exact toNat_loss (by omega)
  have find {q : Nat} {c : Bundle n} (found : v.bunds q = some c) :
      q = p ∧ c = left ∨ q ≠ p ∧ s.world.bunds q = some c := by
    rw [bunds] at found
    exact some_of_update found
  refine ⟨⟨fun q above => ?_, fun q c found isTemplate => ?_, fun m x found => ?_⟩,
    fun q c ls found nodup up => ?_, fun q c m found up => ?_,
    fun q l₁ l₂ other first second =>
      inv.several q l₁ l₂ other (ups q l₁ first).2 (ups q l₂ second).2⟩
  · change v.nextBund ≤ q at above
    rw [nextBund] at above
    have fresh := inv.kept.freshBund q above
    have elsewhere : q ≠ p := fun same => by simp [same, atBund] at fresh
    change v.bunds q = none
    rw [bunds, Function.update_of_ne elsewhere]
    exact fresh
  · rcases find found with ⟨-, rfl⟩ | ⟨-, before⟩
    · rw [tmpl, plain] at isTemplate
      exact nomatch isTemplate
    · exact inv.kept.bundTemplate q c before isTemplate
  · have fits : LinkFits s.world x := by
      change v.links m = some x at found
      rw [links] at found
      rcases some_of_update found with ⟨-, rfl⟩ | ⟨-, before⟩
      · exact ⟨by simp [unbound], fun _ => unjoined, by simp [unjoined]⟩
      · exact inv.kept.links m x before
    refine ⟨fun q there => ?_, fits.template, fits.network⟩
    obtain ⟨c, before, plainBund⟩ := fits.known q there
    change ∃ d, v.bunds q = some d ∧ d.tmpl = false
    rw [bunds]
    by_cases same : q = p
    · subst same
      exact ⟨left, Function.update_self .., tmpl.trans plain⟩
    · exact ⟨c, (Function.update_of_ne same _ _).trans before, plainBund⟩
  · rcases find found with ⟨rfl, rfl⟩ | ⟨-, before⟩
    · have counted := inv.count q b (l :: ls) atBund
        (List.nodup_cons.mpr ⟨fun inside => (ups q l (up l inside)).1 rfl, nodup⟩)
        (fun m inside => by
          rcases List.mem_cons.mp inside with rfl | inside
          · exact wasUp
          · exact (ups q m (up m inside)).2)
      rw [List.length_cons] at counted
      omega
    · exact inv.count q c ls before nodup fun m inside => (ups q m (up m inside)).2
  · rcases find found with ⟨rfl, rfl⟩ | ⟨-, before⟩
    · obtain ⟨f, brought, member⟩ := inv.member q b m atBund (ups q m up).2
      obtain ⟨authname, negotiated⟩ := member
      refine ⟨f, brought, authname.trans peer.2.2.symm, fun on => ?_⟩
      rw [peer.1, peer.2.1]
      exact negotiated on
    · exact inv.member q c m before (ups q m up).2

end Leaving

section Joining

theorem bundJoinRefuses_same {b c : Bundle n} (same : SamePeer b c) (facts : JoinFacts) :
    bundJoinRefuses c facts = bundJoinRefuses b facts := by
  unfold bundJoinRefuses
  rw [same.n_up, same.peer_mrru, same.peer_discrim, same.authname]

structure JoinSound (multilink : Bool) (b : Bundle n) (facts : JoinFacts) : Prop where
  checked : bundJoinRefuses b facts = false
  discrim : mpDiscrimEqual facts.peer_discrim b.peer_discrim = true →
    SameDiscrim facts.peer_discrim b.peer_discrim
  multilink : multilink = true
  fits : b.n_up ≠ 65535

theorem JoinSound.same {multilink : Bool} {b c : Bundle n} {facts : JoinFacts}
    (sound : JoinSound multilink b facts) (same : SamePeer b c) : JoinSound multilink c facts := by
  obtain ⟨checked, discrim, on, fits⟩ := sound
  refine ⟨(bundJoinRefuses_same same facts).trans checked, ?_, on, same.n_up ▸ fits⟩
  rw [same.peer_discrim]
  exact discrim

theorem JoinSound.member {multilink : Bool} {b : Bundle n} {facts : JoinFacts}
    (sound : JoinSound multilink b facts) (busy : b.n_up ≠ 0) : Member multilink b facts := by
  obtain ⟨checked, discrim, -, -⟩ := sound
  have positive : b.n_up > 0 := UInt16.pos_iff_ne_zero.mpr busy
  simp only [bundJoinRefuses, positive, decide_true, Bool.true_and, Bool.or_eq_false_iff,
    Bool.not_eq_false', beq_eq_false_iff_ne, bne_eq_false_iff_eq, ne_eq] at checked
  obtain ⟨⟨⟨mrru, peer⟩, want⟩, equal, authname⟩ := checked
  exact ⟨authname, fun _ => ⟨mrru, peer, want, discrim equal⟩⟩

def bundJoined (b : Bundle n) (facts : JoinFacts) : Bundle n :=
  let b := { b with n_up := b.n_up + 1 }
  if b.n_up = 1 then
    { b with
      authname := facts.authname, peer_mrru := facts.peer_mrru
      peer_discrim := if facts.peer_mrru ≠ 0 then facts.peer_discrim else b.peer_discrim }
  else b

theorem n_up_bundJoined (b : Bundle n) (facts : JoinFacts) :
    (bundJoined b facts).n_up = b.n_up + 1 ∧ (bundJoined b facts).tmpl = b.tmpl := by
  unfold bundJoined
  dsimp only
  split_ifs <;> exact ⟨rfl, rfl⟩

theorem n_up_eq_zero {count : UInt16} (first : count + 1 = 1) : count = 0 := by
  have wrapped := congrArg UInt16.toNat first
  rw [UInt16.toNat_add, UInt16.toNat_one] at wrapped
  have bounded := count.toNat_lt
  refine UInt16.toNat_inj.mp ?_
  rw [UInt16.toNat_zero]
  omega

theorem bundJoined_later {b : Bundle n} (busy : b.n_up ≠ 0) (facts : JoinFacts) :
    bundJoined b facts = { b with n_up := b.n_up + 1 } := by
  unfold bundJoined
  dsimp only
  rw [if_neg fun first => busy (n_up_eq_zero first)]

/-- The first link of a bundle is a member of it by its own account. -/
theorem member_first {b : Bundle n} (zero : b.n_up = 0) (facts : JoinFacts) :
    Member (facts.peer_mrru != 0 && facts.want_mrru != 0) (bundJoined b facts) facts := by
  have one : b.n_up + 1 = 1 := by rw [zero]; rfl
  unfold bundJoined
  dsimp only
  rw [if_pos one]
  refine ⟨rfl, fun on => ?_⟩
  rw [Bool.and_eq_true, bne_iff_ne, bne_iff_ne] at on
  dsimp only
  rw [if_pos on.1]
  exact ⟨on.1, on.1, on.2, .refl _⟩

/-- The last step of `BundJoin`, where the netgraph connects the link. -/
theorem OnePeerInv.join {s : PeerHistory n} (inv : OnePeerInv s) {l p : Nat} {b : Bundle n}
    {link : BundLink n} {facts : JoinFacts} (atLink : s.world.links l = some link)
    (apart : link.joined_bund = false) (plainLink : link.tmpl = false)
    (network : link.network = true) (points : link.bund = some p)
    (atBund : s.world.bunds p = some b) (brought : s.brought l = some facts)
    (first : b.n_up = 0 →
      s.enableMultilink p = (facts.peer_mrru != 0 && facts.want_mrru != 0))
    (later : b.n_up ≠ 0 → JoinSound (s.enableMultilink p) b facts) :
    OnePeerInv { s with world := (s.world.mapLink l fun link =>
      { link with joined_bund := true }).mapBund p fun b => bundJoined b facts } := by
  have plain := inv.plain atLink points atBund
  let joined := s.world.mapLink l fun link => { link with joined_bund := true }
  have keptLink : WellKept joined :=
    inv.kept.setLink rfl rfl (mapLink_some atLink _)
      ⟨(inv.kept.links l link atLink).known, by simp [plainLink], fun _ => network⟩
  have ups (q m : Nat) (up : UpIn joined q m) : m = l ∧ q = p ∨ m ≠ l ∧ UpIn s.world q m := by
    rcases upIn_update (mapLink_some atLink _) up with ⟨same, -, where_⟩ | other
    · exact .inl ⟨same, Option.some.inj (where_.symm.trans points)⟩
    · exact .inr other
  have notUp (q : Nat) : ¬ UpIn s.world q l := by
    rintro ⟨x, found, isUp, -⟩
    rw [atLink, Option.some.injEq] at found
    rw [← found, apart] at isUp
    exact nomatch isUp
  have alone (zero : b.n_up = 0) : ∀ m, ¬ UpIn s.world p m :=
    inv.down (by rw [atBund, Option.all_some, zero]; rfl)
  have grown : (bundJoined b facts).n_up.toNat = b.n_up.toNat + 1 := by
    rw [(n_up_bundJoined b facts).1]
    refine toNat_gain rfl ?_
    have bounded := b.n_up.toNat_lt
    by_cases zero : b.n_up = 0
    · rw [zero]
      decide
    · have below := (later zero).fits
      have : b.n_up.toNat ≠ 65535 := fun same => below (UInt16.toNat_inj.mp same)
      omega
  have find {q : Nat} {c : Bundle n}
      (found : (joined.mapBund p fun b => bundJoined b facts).bunds q = some c) :
      q = p ∧ c = bundJoined b facts ∨ q ≠ p ∧ s.world.bunds q = some c := by
    obtain ⟨d, before, rfl⟩ := some_of_mapBund found
    by_cases same : q = p
    · subst same
      rw [if_pos rfl]
      have before : s.world.bunds q = some d := before
      rw [atBund, Option.some.injEq] at before
      exact .inl ⟨rfl, by rw [before]⟩
    · rw [if_neg same]
      exact .inr ⟨same, before⟩
  have member : Member (s.enableMultilink p) (bundJoined b facts) facts := by
    by_cases zero : b.n_up = 0
    · rw [first zero]
      exact member_first zero facts
    · rw [bundJoined_later zero]
      obtain ⟨authname, negotiated⟩ := (later zero).member zero
      exact ⟨authname, negotiated⟩
  refine ⟨keptLink.mapBund p fun c found isTemplate => ?_, fun q c ls found nodup up => ?_,
    fun q c m found up => ?_, fun q l₁ l₂ other first' second => ?_⟩
  · have found : s.world.bunds p = some c := found
    rw [atBund, Option.some.injEq] at found
    rw [(n_up_bundJoined c facts).2, ← found, plain] at isTemplate
    exact nomatch isTemplate
  · rcases find found with ⟨rfl, rfl⟩ | ⟨elsewhere, before⟩
    · have rest := inv.count q b (ls.erase l) atBund (nodup.erase l) (fun m inside => by
        obtain ⟨away, inside⟩ := nodup.mem_erase_iff.mp inside
        rcases ups q m (up m inside) with ⟨same, -⟩ | ⟨-, before⟩
        · exact absurd same away
        · exact before)
      rw [List.length_erase] at rest
      split_ifs at rest <;> omega
    · refine inv.count q c ls before nodup fun m inside => ?_
      rcases ups q m (up m inside) with ⟨-, same⟩ | ⟨-, before⟩
      · exact absurd same elsewhere
      · exact before
  · rcases ups q m up with ⟨rfl, rfl⟩ | ⟨-, before⟩
    · rcases find found with ⟨-, rfl⟩ | ⟨elsewhere, -⟩
      · exact ⟨facts, brought, member⟩
      · exact absurd rfl elsewhere
    · rcases find found with ⟨rfl, rfl⟩ | ⟨-, atOther⟩
      · obtain ⟨f, broughtBefore, was⟩ := inv.member q b m atBund before
        rw [bundJoined_later fun zero => alone zero m before]
        exact ⟨f, broughtBefore, was.authname, was.multilink⟩
      · exact inv.member q c m atOther before
  · have joining (m : Nat) (before : UpIn s.world p m) : s.enableMultilink p = true :=
      (later fun zero => alone zero m before).multilink
    rcases ups q l₁ first' with ⟨rfl, rfl⟩ | ⟨-, before₁⟩
    · rcases ups q l₂ second with ⟨same, -⟩ | ⟨-, before₂⟩
      · exact absurd same.symm other
      · exact joining l₂ before₂
    · rcases ups q l₂ second with ⟨rfl, rfl⟩ | ⟨-, before₂⟩
      · exact joining l₁ before₁
      · exact inv.several q l₁ l₂ other before₁ before₂

end Joining

section Steps

/-- What `BundJoin` finds or makes is no template. -/
theorem bundJoinFind_calm {w v : BundWorld n} (kept : WellKept w) {facts : JoinFacts}
    {target : Option Nat} (result : bundJoinFind w facts = (target, v)) :
    Calm w v ∧ v.links = w.links ∧
      ∀ p b, target = some p → v.bunds p = some b → b.tmpl = false := by
  have nothing : ∀ p b, (none : Option Nat) = some p → w.bunds p = some b → b.tmpl = false :=
    fun _ _ chosen => by cases chosen
  unfold bundJoinFind at result
  split at result
  · rename_i q same
    cases result
    refine ⟨.refl kept, rfl, fun p b chosen found => ?_⟩
    cases chosen
    unfold bundJoinSame at same
    split_ifs at same
    obtain ⟨test, -⟩ := find_listed same
    rw [Option.bind_some, found, Option.any_some] at test
    simp only [Bool.and_eq_true, Bool.not_eq_true'] at test
    exact test.1.1.1
  · split at result
    · cases result
      exact ⟨.refl kept, rfl, nothing⟩
    · split at result
      · cases result
        exact ⟨.refl kept, rfl, nothing⟩
      · split at result
        · cases result
          exact ⟨.refl kept, rfl, nothing⟩
        · rename_i q named
          cases atBund : w.bunds q with
          | none =>
              rw [atBund] at result
              cases result
              exact ⟨.refl kept, rfl, nothing⟩
          | some bt =>
              rw [atBund] at result
              dsimp only at result
              split at result
              · rename_i isTemplate
                have calm := bundInst_calm kept (kept.bundTemplate q bt atBund isTemplate) none
                  false false facts.bundNgInit
                rw [result] at calm
                refine ⟨calm, ?_⟩
                unfold bundInst at result
                dsimp only at result
                split at result
                · cases result
                  refine ⟨rfl, fun p b chosen found => ?_⟩
                  cases chosen
                  dsimp only at found
                  rw [Function.update_self, Option.some.injEq] at found
                  rw [← found]
                · cases result
                  refine ⟨rfl, fun p b chosen found => ?_⟩
                  cases chosen
              · rename_i plain
                cases result
                refine ⟨.refl kept, rfl, fun p b chosen found => ?_⟩
                cases chosen
                rw [atBund, Option.some.injEq] at found
                rw [← found]
                exact Bool.eq_false_iff.mpr plain

/-- A link that gets its bundle from `BundJoin` is attached to one that does not refuse it. -/
theorem bundJoinAttach_calm {w v : BundWorld n} (kept : WellKept w) {l : Nat}
    {link : BundLink n} {facts : JoinFacts} {goOn : Bool} (atLink : w.links l = some link)
    (apart : link.joined_bund = false) (result : bundJoinAttach w l facts = (goOn, v)) :
    Calm w v ∧ (goOn = true → ∃ p k b,
      v.links l = some { link with bund := some p, bundleIndex := k } ∧ v.bunds p = some b) := by
  unfold bundJoinAttach at result
  cases chosen : bundJoinFind w facts with
  | mk target u =>
      obtain ⟨found, sameLinks, plain⟩ := bundJoinFind_calm kept chosen
      rw [chosen] at result
      cases target with
      | none =>
          cases result
          exact ⟨found, nofun⟩
      | some p =>
          dsimp only at result
          cases atBund : u.bunds p with
          | none =>
              rw [atBund] at result
              cases result
              exact ⟨found, nofun⟩
          | some b =>
              rw [atBund] at result
              dsimp only at result
              split at result
              · cases result
                exact ⟨found, nofun⟩
              · split at result
                · cases result
                  exact ⟨found, nofun⟩
                · rename_i k free
                  cases result
                  have attached := bundAttach_calm found.kept atBund (plain p b rfl atBund)
                    (fun x before => by
                      rw [sameLinks, atLink, Option.some.injEq] at before
                      exact before ▸ apart) k
                  refine ⟨found.trans attached, fun _ => ⟨p, k,
                    { b with links := Function.update b.links k (some l), n_links := b.n_links + 1 },
                    ?_, ?_⟩⟩
                  · simp [bundAttach, sameLinks, atLink]
                  · simp [bundAttach, atBund]

/-- `BundJoin` where the netgraph does not connect the link. -/
theorem bundJoinUp_calm {w : BundWorld n} (kept : WellKept w) (l p : Nat) (k : Fin n)
    {facts : JoinFacts} (fails : facts.linkNgJoin = false) :
    Calm w (bundJoinUp w l p k facts) := by
  have opened := calm_mapBund kept p (f := fun b => { b with «open» := true })
    (fun _ => ⟨rfl, rfl, rfl, rfl⟩) fun _ => id
  unfold bundJoinUp
  dsimp only
  rw [if_neg (by simp [fails])]
  have unlinked := opened.trans (calm_unlink opened.kept l)
  have emptied := unlinked.trans (calm_mapBund unlinked.kept p
    (f := fun b => { b with links := Function.update b.links k none })
    (fun _ => ⟨rfl, rfl, rfl, rfl⟩) fun _ => id)
  split
  · exact emptied
  · split_ifs
    · exact emptied
    · exact emptied.trans (bundShutdown_calm emptied.kept p)

/-- `BundJoin` from where the link has its bundle. -/
theorem OnePeerInv.bundJoinUp {s : PeerHistory n} (inv : OnePeerInv s) {v : BundWorld n}
    (calm : Calm s.world v) {l p : Nat} {b : Bundle n} {link : BundLink n} {facts : JoinFacts}
    (atLink : v.links l = some link) (apart : link.joined_bund = false)
    (plainLink : link.tmpl = false) (network : link.network = true)
    (points : link.bund = some p) (atBund : v.bunds p = some b)
    (brought : s.brought l = some facts)
    (first : facts.linkNgJoin = true → (s.world.bunds p).all (·.n_up == 0) = true →
      s.enableMultilink p = (facts.peer_mrru != 0 && facts.want_mrru != 0))
    (later : facts.linkNgJoin = true → ∀ c, s.world.bunds p = some c → c.n_up ≠ 0 →
      JoinSound (s.enableMultilink p) c facts) :
    OnePeerInv { s with world := bundJoinUp v l p link.bundleIndex facts } := by
  cases connects : facts.linkNgJoin with
  | false => exact inv.calm (calm.trans (bundJoinUp_calm calm.kept l p _ connects))
  | true =>
      have opened := calm.trans (calm_mapBund calm.kept p (f := fun b => { b with «open» := true })
        (fun _ => ⟨rfl, rfl, rfl, rfl⟩) fun _ => id)
      have atOpened := mapBund_some atBund p fun b => { b with «open» := true }
      rw [if_pos rfl] at atOpened
      unfold Membership.bundJoinUp
      dsimp only
      rw [if_pos connects]
      refine (inv.calm opened).join atLink apart plainLink network points atOpened brought
        (fun zero => first connects ?_) fun busy => ?_
      · rcases opened.bunds p _ atOpened with ⟨c, before, same⟩ | ⟨absent, -⟩
        · rw [before, Option.all_some, beq_iff_eq, ← same.n_up]
          exact zero
        · rw [absent]
          rfl
      · rcases opened.bunds p _ atOpened with ⟨c, before, same⟩ | ⟨-, -, zero⟩
        · exact (later connects c before (same.n_up ▸ busy)).same same
        · exact absurd zero busy

/-- `BundJoin` for a link that has just entered the network phase. -/
theorem OnePeerInv.bundJoin {s : PeerHistory n} (inv : OnePeerInv s) {l : Nat}
    {link : BundLink n} {facts : JoinFacts} (atLink : s.world.links l = some link)
    (apart : link.joined_bund = false) (plainLink : link.tmpl = false)
    (network : link.network = true) (brought : s.brought l = some facts)
    (first : facts.linkNgJoin = true → ∀ p, bundJoinTarget s.world l facts = some p →
      (s.world.bunds p).all (·.n_up == 0) = true →
        s.enableMultilink p = (facts.peer_mrru != 0 && facts.want_mrru != 0))
    (later : facts.linkNgJoin = true → ∀ p c, bundJoinTarget s.world l facts = some p →
      s.world.bunds p = some c → c.n_up ≠ 0 → JoinSound (s.enableMultilink p) c facts) :
    OnePeerInv { s with world := bundJoin s.world l facts } := by
  unfold bundJoinTarget at first later
  unfold Membership.bundJoin
  simp only [atLink] at first later ⊢
  split
  · exact inv
  · rename_i going
    simp only [going, Bool.false_eq_true, if_false] at first later
    cases points : link.bund with
    | some p =>
        obtain ⟨b, atBund, -⟩ := (inv.kept.links l link atLink).known p points
        simp only [points] at first later
        simp only [if_true, atLink, points]
        exact inv.bundJoinUp (.refl inv.kept) atLink apart plainLink network points atBund brought
          (fun connects => first connects p rfl) fun connects c => later connects p c rfl
    | none =>
        dsimp only
        cases result : bundJoinAttach s.world l facts with
        | mk goOn v =>
            obtain ⟨calm, attached⟩ := bundJoinAttach_calm inv.kept atLink apart result
            cases goOn with
            | false => simpa using inv.calm calm
            | true =>
                obtain ⟨p, k, b, atLink', atBund⟩ := attached rfl
                simp only [points, result, atLink', Option.bind_some] at first later
                simp only [if_true, atLink']
                exact inv.bundJoinUp calm atLink' apart plainLink network rfl atBund brought
                  (fun connects => first connects p rfl) fun connects c => later connects p c rfl

/-- `BundLeave` for a link that leaves the network phase. -/
theorem OnePeerInv.bundLeave {s : PeerHistory n} (inv : OnePeerInv s) {l : Nat}
    {link : BundLink n} (atLink : s.world.links l = some link)
    (joined : link.joined_bund = true) :
    let v := s.world.mapLink l fun link => { link with network := false }
    (bundLeave v l).aborted = true ∨ OnePeerInv { s with world := bundLeave v l } := by
  unfold Membership.bundLeave
  simp only [mapLink_links, mapLink_bunds, Function.update_self, atLink, Option.map_some]
  cases points : link.bund with
  | none => exact .inl rfl
  | some p =>
      obtain ⟨b, atBund, -⟩ := (inv.kept.links l link atLink).known p points
      simp only [atBund]
      by_cases zero : b.n_up = 0
      · rw [if_pos zero]
        exact .inl rfl
      · rw [if_neg zero]
        right
        let left : Bundle n := { b with
          n_up := b.n_up - 1
          links := Function.update b.links link.bundleIndex none
          n_links := b.n_links - 1 }
        let gone : BundLink n := { link with network := false, joined_bund := false, bund := none }
        have parted := inv.leave (v := ((s.world.mapLink l fun link =>
            { link with network := false }).mapLink l fun link =>
              { link with joined_bund := false, bund := none }).mapBund p fun _ => left) atLink
          joined points atBund zero left gone (by simp [atLink, gone]) (by simp [atBund]) rfl rfl rfl rfl
          rfl ⟨rfl, rfl, rfl⟩
        have atLeft : (((s.world.mapLink l fun link => { link with network := false }).mapLink l
            fun link => { link with joined_bund := false, bund := none }).mapBund p
              fun _ => left).bunds p = some left := by simp [atBund]
        change OnePeerInv { s with world :=
          if left.n_up ≠ 0 then (((s.world.mapLink l fun link => { link with network := false }).mapLink l
            fun link => { link with joined_bund := false, bund := none }).mapBund p fun _ => left)
          else _ }
        generalize (((s.world.mapLink l fun link => { link with network := false }).mapLink l
            fun link => { link with joined_bund := false, bund := none }).mapBund p
              fun _ => left) = w at parted atLeft ⊢
        have down (zero : left.n_up = 0) := parted.down (p := p) (by
          rw [show w.bunds p = some left from atLeft, Option.all_some, beq_iff_eq]
          exact zero)
        have nameless (zero : left.n_up = 0) := parted.forget (down zero)
          (f := fun b => { b with authname := "" }) (fun _ => rfl) fun _ => rfl
        have closed (zero : left.n_up = 0) := (nameless zero).calm
          (calm_mapBund (nameless zero).kept p (f := fun b => { b with «open» := false })
            (fun _ => ⟨rfl, rfl, rfl, rfl⟩) fun _ => id)
        split_ifs with busy
        · exact parted
        · exact nameless (not_not.mp busy)
        · exact closed (not_not.mp busy)
        · have last := closed (not_not.mp busy)
          exact last.calm (bundShutdown_calm last.kept p)

theorem bundCreateOpenLink_calm {w : BundWorld n} (kept : WellKept w) {p : Nat} {k : Fin n}
    {busy : Bool} (plain : (w.bunds p).any (fun b => b.tmpl || b.dead) = false)
    (apart : ∀ b lt link, w.bunds p = some b → b.links k = none → busy = false →
      linkFind w (b.conf.linkst k) = some lt → w.links lt = some link → link.joined_bund = false) :
    Calm w (bundCreateOpenLink w p k busy) := by
  unfold bundCreateOpenLink
  cases atBund : w.bunds p with
  | none => exact .refl kept
  | some b =>
      rw [atBund, Option.any_some, Bool.or_eq_false_iff] at plain
      dsimp only
      split_ifs with taken unnamed
      · exact .refl kept
      · exact .refl kept
      · rw [Option.not_isSome_iff_eq_none] at taken
        unfold bundCreateLink
        cases found : linkFind w (b.conf.linkst k) with
        | none => exact .refl kept
        | some lt =>
            dsimp only
            cases atLink : w.links lt with
            | none => exact .refl kept
            | some link =>
                dsimp only
                cases busy with
                | true => exact .refl kept
                | false =>
                    have down := apart b lt link atBund taken rfl found atLink
                    cases template : link.tmpl with
                    | true =>
                        simp only [Bool.false_eq_true, if_false, if_true]
                        have made := linkInst_calm kept (kept.links lt link atLink) down none false
                          false
                        refine made.trans (bundAttach_calm made.kept atBund plain.1 ?_ k)
                        intro x there
                        change Function.update w.links w.nextLink _ w.nextLink = some x at there
                        rw [Function.update_self, Option.some.injEq] at there
                        rw [← there]
                        exact down
                    | false =>
                        simp only [Bool.false_eq_true, if_false]
                        refine bundAttach_calm kept atBund plain.1 (fun x there => ?_) k
                        rw [atLink, Option.some.injEq] at there
                        exact there ▸ down

end Steps

section Runs

variable [NeZero n]

/-- `BundJoin` compares what it ought to where the bundle has links up already, and
`BundCreateOpenLink` attaches no link that is up. -/
def peerAllowed (s : PeerHistory n) : BundEvent n → Prop
  | .createOpen p k busy => ∀ b lt link, s.world.bunds p = some b → b.links k = none →
      busy = false → linkFind s.world (b.conf.linkst k) = some lt →
        s.world.links lt = some link → link.joined_bund = false
  | .enterNetwork l facts => facts.linkNgJoin = true → ∀ p b,
      bundJoinTarget (enterPhase s.world l) l facts = some p → s.world.bunds p = some b →
        b.n_up ≠ 0 → JoinSound (s.enableMultilink p) b facts
  | _ => True

/-- An event that takes no link into the network phase. -/
theorem OnePeerInv.quiet {s : PeerHistory n} (inv : OnePeerInv s) {event : BundEvent n}
    (allowed : peerAllowed s event) (still : entering s.world event = none)
    (alive : s.world.aborted = false) :
    (bundEvent s.world event).aborted = true ∨
      OnePeerInv { s with world := bundEvent s.world event } := by
  have kept := inv.kept
  cases event with
  | bundCreate name tmpl stay bt conf ngInit =>
      exact .inr (inv.calm (bundCreate_calm kept name tmpl stay bt conf ngInit))
  | linkCreate name tmpl stay lt => exact .inr (inv.calm (linkCreate_calm kept name tmpl stay lt))
  | linkInst i =>
      right
      unfold bundEvent
      dsimp only
      split
      · exact inv
      · rename_i link found
        obtain ⟨l, -, atLink⟩ := Option.bind_eq_some_iff.mp found
        have fits := kept.links l link atLink
        split_ifs with isTemplate
        · exact inv.calm (linkInst_calm kept fits (fits.template isTemplate) none false false)
        · exact inv
  | bundConf p conf =>
      exact .inr (inv.calm (calm_mapBund kept p (fun _ => ⟨rfl, rfl, rfl, rfl⟩) fun _ => id))
  | setOpen p state =>
      exact .inr (inv.calm (calm_mapBund kept p (fun _ => ⟨rfl, rfl, rfl, rfl⟩) fun _ => id))
  | createOpen p k busy =>
      right
      unfold bundEvent
      dsimp only
      split_ifs with gone
      · exact inv
      · exact inv.calm (bundCreateOpenLink_calm kept (Bool.eq_false_iff.mpr gone) allowed)
  | enterNetwork l facts =>
      unfold entering at still
      unfold bundEvent
      dsimp only
      cases atLink : s.world.links l with
      | none => exact .inr inv
      | some link =>
          dsimp only
          split_ifs with isTemplate inNetwork
          · exact .inr inv
          · exact .inl rfl
          · simp [alive, atLink, isTemplate, inNetwork] at still
  | leaveNetwork l =>
      unfold bundEvent
      dsimp only
      cases atLink : s.world.links l with
      | none => exact .inr inv
      | some link =>
          dsimp only
          split_ifs with inNetwork joined
          · exact inv.bundLeave atLink joined
          · refine .inr (inv.calm (calm_mapLink kept l fun x found => ?_))
            rw [atLink, Option.some.injEq] at found
            subst found
            obtain ⟨known, template, -⟩ := kept.links l link atLink
            exact ⟨⟨known, template, fun up => absurd up joined⟩, fun up => absurd up joined⟩
          · exact .inr inv
  | linkDestroy l => exact .inr (inv.calm (linkDestroy_calm kept l))
  | linkShutdown l => exact .inr (inv.calm (linkShutdown_calm kept l))
  | bundDestroy p =>
      right
      unfold bundEvent
      dsimp only
      split_ifs
      · exact inv
      · exact inv.calm (bundDestroy_calm kept p)
  | shutdownInProgress => exact .inr (inv.calm (calm_same kept rfl rfl rfl))

/-- The last part of a step: a process that aborts leaves everything as it was. -/
theorem OnePeerInv.bundStep {s : PeerHistory n} (inv : OnePeerInv s) {event : BundEvent n}
    (stepped : s.world.aborted = false → (bundEvent s.world event).aborted = true ∨
      OnePeerInv { s with world := bundEvent s.world event }) :
    OnePeerInv { s with world := bundStep s.world event } := by
  unfold Membership.bundStep
  split_ifs with aborted
  · exact inv
  · dsimp only
    split_ifs with fails
    · exact inv.calm (calm_same inv.kept rfl rfl rfl)
    · exact (stepped (Bool.eq_false_iff.mpr aborted)).resolve_left fails

/-- A link enters the network phase and comes to join. -/
theorem OnePeerInv.enter {s : PeerHistory n} (inv : OnePeerInv s) {l : Nat} {facts : JoinFacts}
    {link : BundLink n} (atLink : s.world.links l = some link) (plain : link.tmpl = false)
    (outside : link.network = false) (brought : s.brought l = some facts)
    (first : ∀ p, opensBund s.world l facts = some p →
      s.enableMultilink p = (facts.peer_mrru != 0 && facts.want_mrru != 0))
    (later : peerAllowed s (.enterNetwork l facts)) :
    OnePeerInv { s with world := bundEvent s.world (.enterNetwork l facts) } := by
  have apart : link.joined_bund = false := by
    rw [Bool.eq_false_iff]
    intro up
    simp [(inv.kept.links l link atLink).network up] at outside
  have entered : Calm s.world (enterPhase s.world l) :=
    calm_mapLink_same inv.kept l (fun _ => rfl) (fun _ => rfl) (fun _ => id) fun _ _ => rfl
  have atEntered : (enterPhase s.world l).links l = some { link with network := true } := by
    simp [enterPhase, atLink]
  have joined := (inv.calm entered).bundJoin atEntered apart plain rfl brought
    (fun connects p target zero => first p (by
      have zero : (s.world.bunds p).all (·.n_up == 0) = true := zero
      rw [opensBund, target, Option.filter_some, connects, zero]
      rfl))
    fun connects p c target found busy => later connects p c target found busy
  unfold bundEvent
  simp only [atLink, plain, outside, Bool.false_eq_true, if_false]
  exact joined

theorem onePeerInv_step {s : PeerHistory n} (inv : OnePeerInv s) {event : BundEvent n}
    (allowed : peerAllowed s event) : OnePeerInv (peerStep s event) := by
  unfold peerStep
  cases enters : entering s.world event with
  | none => exact inv.bundStep fun alive => inv.quiet allowed enters alive
  | some pair =>
      obtain ⟨l, facts⟩ := pair
      cases event with
      | enterNetwork m given =>
          unfold entering at enters
          dsimp only at enters
          split_ifs at enters with fresh
          cases enters
          simp only [Bool.and_eq_true, Bool.not_eq_true', Option.any_eq_true] at fresh
          obtain ⟨-, link, atLink, plain, outside⟩ := fresh
          have apart (p : Nat) : ¬ UpIn s.world p l := by
            rintro ⟨x, found, up, -⟩
            rw [atLink, Option.some.injEq] at found
            subst found
            simp [(inv.kept.links l link atLink).network up] at outside
          have noted := inv.bring apart facts
          dsimp only
          cases opens : opensBund s.world l facts with
          | none =>
              refine noted.bundStep fun _ => .inr (noted.enter atLink plain outside
                (Function.update_self ..) (fun p opened => ?_) allowed)
              rw [show opensBund s.world l facts = some p from opened] at opens
              exact nomatch opens
          | some p =>
              obtain ⟨target, zero⟩ := Option.filter_eq_some_iff.mp opens
              rw [Bool.and_eq_true] at zero
              have ready := noted.enable (noted.down zero.2)
                (facts.peer_mrru != 0 && facts.want_mrru != 0)
              refine ready.bundStep fun _ => .inr (ready.enter atLink plain outside
                (Function.update_self ..) (fun q opened => ?_) ?_)
              · rw [show opensBund s.world l facts = some q from opened, Option.some.injEq] at opens
                rw [opens]
                exact Function.update_self ..
              · intro _ q b again found busy
                rw [show bundJoinTarget (enterPhase s.world l) l facts = some q from again,
                  Option.some.injEq] at target
                subst target
                rw [show s.world.bunds q = some b from found, Option.all_some, beq_iff_eq] at zero
                exact absurd zero.2 busy
      | _ => exact nomatch enters

/-- In a run whose joins are sound, every bundle with several links up is one peer. -/
theorem onePeer_run {events : List (BundEvent n)}
    (allowed : Transition.Meets peerStep peerAllowed (peerStart n) events) :
    OnePeer (Transition.run peerStep (peerStart n) events) := by
  have kept : ∀ (s : PeerHistory n) (event : BundEvent n), OnePeerInv s → peerAllowed s event →
      OnePeerInv (peerStep s event) := fun _ _ inv allows => onePeerInv_step inv allows
  exact (Transition.invariant_run peerStep kept onePeerInv_start allowed).onePeer

end Runs

end

def joeWith («class» : UInt8) : JoinFacts where
  peer_mrru := 1500
  want_mrru := 1500
  peer_discrim := ⟨3, «class», [10, 0, 1]⟩
  authname := "joe"
  action := some "B"
  matched := none
  bundNgInit := true
  linkNgJoin := true

/-- The bundle `B` with the links `L` and `M`, which both enter the network phase. -/
def joeRun (first second : UInt8) : List (BundEvent 16) :=
  [.bundCreate "B" false true none bareConf true, .linkCreate ⟨"L", none⟩ false true none,
    .linkCreate ⟨"M", none⟩ false true none, .enterNetwork 0 (joeWith first),
    .enterNetwork 1 (joeWith second)]

theorem onePeer_joe : OnePeer (Transition.run peerStep (peerStart 16) (joeRun 1 1)) := by
  refine onePeer_run ⟨trivial, trivial, trivial, ?_, ?_, trivial⟩
  · intro _ p b target found busy
    have same : some 0 = some p := target
    cases same
    have same := Option.some.inj found
    subst same
    exact absurd rfl busy
  · intro _ p b target found _
    have same : some 0 = some p := target
    cases same
    have same := Option.some.inj found
    subst same
    exact ⟨rfl, fun _ => ⟨rfl, rfl, rfl⟩, rfl, by decide⟩

/-- Discriminators of different classes pass for equal when they are of one length. -/
theorem not_onePeer_class : ¬ ∀ events : List (BundEvent 16),
    OnePeer (Transition.run peerStep (peerStart 16) events) := by
  intro always
  have first : UpIn (Transition.run peerStep (peerStart 16) (joeRun 1 2)).world 0 0 :=
    ⟨_, rfl, rfl, rfl⟩
  have second : UpIn (Transition.run peerStep (peerStart 16) (joeRun 1 2)).world 0 1 :=
    ⟨_, rfl, rfl, rfl⟩
  obtain ⟨-, f₁, f₂, brought₁, brought₂, -, -, -, discrim⟩ :=
    always (joeRun 1 2) 0 0 1 (by decide) first second
  have same₁ : some (joeWith 1) = some f₁ := brought₁
  have same₂ : some (joeWith 2) = some f₂ := brought₂
  cases same₁
  cases same₂
  exact absurd discrim.class (by decide)

end Mpd.Membership
