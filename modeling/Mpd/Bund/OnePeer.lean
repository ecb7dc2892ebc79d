import Mpd.Bund.Membership

/-! A bundle with several links up: whether all of them are links to one peer. The checks of
`BundJoin` are followed over whole runs, with what every link brought along when it entered
the network phase. -/

set_option autoImplicit false

namespace Mpd.Membership

section
variable {n : Nat}

def UpIn (w : BundWorld n) (p l : Nat) : Prop :=
  ∃ link, w.links l = some link ∧ link.joined_bund = true ∧ link.bund = some p

/-- A link that is up after one has been written is that one, or it was up before. -/
theorem upIn_update {w v : BundWorld n} {l p m : Nat} {link : BundLink n}
    (links : v.links = Function.update w.links l (some link)) (up : UpIn v p m) :
    m = l ∧ link.joined_bund = true ∧ link.bund = some p ∨ m ≠ l ∧ UpIn w p m := by
  obtain ⟨x, found, joined, points⟩ := up
  rw [links] at found
  rcases some_of_update found with ⟨same, rfl⟩ | ⟨elsewhere, before⟩
  · exact .inl ⟨same, joined, points⟩
  · exact .inr ⟨elsewhere, x, before, joined, points⟩

/-- What every link keeps to: a template is not up, and a link that is up is in the network
phase and points to a bundle that is no template. -/
structure LinkFits (w : BundWorld n) (link : BundLink n) : Prop where
  known : ∀ p, link.bund = some p → ∃ b, w.bunds p = some b ∧ b.tmpl = false
  template : link.tmpl = true → link.joined_bund = false
  network : link.joined_bund = true → link.network = true

structure WellKept (w : BundWorld n) : Prop where
  freshBund : ∀ p, w.nextBund ≤ p → w.bunds p = none
  bundTemplate : ∀ p b, w.bunds p = some b → b.tmpl = true → b.n_up = 0
  links : ∀ l link, w.links l = some link → LinkFits w link

structure SamePeer (b c : Bundle n) : Prop where
  n_up : c.n_up = b.n_up
  peer_mrru : c.peer_mrru = b.peer_mrru
  peer_discrim : c.peer_discrim = b.peer_discrim
  authname : c.authname = b.authname

theorem SamePeer.refl (b : Bundle n) : SamePeer b b := ⟨rfl, rfl, rfl, rfl⟩

theorem SamePeer.trans {b c d : Bundle n} (left : SamePeer b c) (right : SamePeer c d) :
    SamePeer b d :=
  ⟨right.n_up.trans left.n_up, right.peer_mrru.trans left.peer_mrru,
    right.peer_discrim.trans left.peer_discrim, right.authname.trans left.authname⟩

/-- No link came up, and the bundles know what they knew. A new bundle has no link up. -/
structure Calm (w v : BundWorld n) : Prop where
  ups : ∀ p l, UpIn v p l → UpIn w p l
  bunds : ∀ p b, v.bunds p = some b →
    (∃ c, w.bunds p = some c ∧ SamePeer c b) ∨
      w.bunds p = none ∧ (∀ l, ¬ UpIn v p l) ∧ b.n_up = 0
  stay : ∀ p, v.bunds p = none → w.bunds p = none
  kept : WellKept v

theorem Calm.refl {w : BundWorld n} (kept : WellKept w) : Calm w w :=
  ⟨fun _ _ up => up, fun _ b found => .inl ⟨b, found, .refl b⟩, fun _ => id, kept⟩

theorem Calm.trans {w v x : BundWorld n} (left : Calm w v) (right : Calm v x) : Calm w x := by
  refine ⟨fun p l up => left.ups p l (right.ups p l up), fun p b found => ?_,
    fun p absent => left.stay p (right.stay p absent), right.kept⟩
  rcases right.bunds p b found with ⟨c, before, same⟩ | ⟨absent, fresh⟩
  · rcases left.bunds p c before with ⟨d, first, sameFirst⟩ | ⟨absent, down, zero⟩
    · exact .inl ⟨d, first, sameFirst.trans same⟩
    · exact .inr ⟨absent, fun l up => down l (right.ups p l up), same.n_up.trans zero⟩
  · exact .inr ⟨left.stay p absent, fresh⟩

/-- The arrays and the flags do not matter. -/
theorem calm_same {w v : BundWorld n} (kept : WellKept w) (bunds : v.bunds = w.bunds)
    (links : v.links = w.links) (nextBund : v.nextBund = w.nextBund) : Calm w v := by
  have ups (p l : Nat) (up : UpIn v p l) : UpIn w p l := by
    unfold UpIn at up ⊢
    rwa [links] at up
  refine ⟨ups, fun p b found => .inl ⟨b, bunds ▸ found, .refl b⟩, fun p => bunds ▸ id, ?_, ?_, ?_⟩
  · rw [bunds, nextBund]
    exact kept.freshBund
  · rw [bunds]
    exact kept.bundTemplate
  · intro l link found
    rw [links] at found
    obtain ⟨known, template, network⟩ := kept.links l link found
    exact ⟨bunds ▸ known, template, network⟩

theorem some_of_mapBund {w : BundWorld n} {p q : Nat} {f : Bundle n → Bundle n} {b : Bundle n}
    (found : (w.mapBund p f).bunds q = some b) :
    ∃ c, w.bunds q = some c ∧ b = if q = p then f c else c := by
  unfold BundWorld.mapBund at found
  dsimp only at found
  by_cases same : q = p
  · subst same
    rw [Function.update_self, Option.map_eq_some_iff] at found
    obtain ⟨c, before, rfl⟩ := found
    exact ⟨c, before, by rw [if_pos rfl]⟩
  · rw [Function.update_of_ne same] at found
    exact ⟨b, found, by rw [if_neg same]⟩

theorem none_of_mapBund {w : BundWorld n} {p q : Nat} {f : Bundle n → Bundle n}
    (absent : (w.mapBund p f).bunds q = none) : w.bunds q = none := by
  unfold BundWorld.mapBund at absent
  dsimp only at absent
  by_cases same : q = p
  · subst same
    rwa [Function.update_self, Option.map_eq_none_iff] at absent
  · rwa [Function.update_of_ne same] at absent

theorem mapBund_some {w : BundWorld n} {q : Nat} {c : Bundle n} (found : w.bunds q = some c)
    (p : Nat) (f : Bundle n → Bundle n) :
    (w.mapBund p f).bunds q = some (if q = p then f c else c) := by
  unfold BundWorld.mapBund
  dsimp only
  split_ifs with same
  · subst same
    rw [Function.update_self, found, Option.map_some]
  · rw [Function.update_of_ne same, found]

theorem WellKept.mapBund {w : BundWorld n} (kept : WellKept w) (p : Nat)
    {f : Bundle n → Bundle n}
    (tmpl : ∀ b, w.bunds p = some b → (f b).tmpl = true → b.tmpl = true ∧ (f b).n_up = b.n_up) :
    WellKept (w.mapBund p f) := by
  refine ⟨fun q fresh => ?_, fun q b found isTemplate => ?_, fun l link found => ?_⟩
  · have before := kept.freshBund q fresh
    unfold BundWorld.mapBund
    dsimp only
    by_cases same : q = p
    · subst same
      rw [Function.update_self, before, Option.map_none]
    · rw [Function.update_of_ne same, before]
  · obtain ⟨c, before, rfl⟩ := some_of_mapBund found
    split_ifs at isTemplate ⊢ with atP
    · obtain ⟨was, same⟩ := tmpl c (atP ▸ before) isTemplate
      exact same.trans (kept.bundTemplate q c before was)
    · exact kept.bundTemplate q c before isTemplate
  · obtain ⟨known, template, network⟩ := kept.links l link found
    refine ⟨fun q points => ?_, template, network⟩
    obtain ⟨c, before, plain⟩ := known q points
    refine ⟨_, mapBund_some before p f, ?_⟩
    split_ifs with atP
    · cases isTemplate : (f c).tmpl with
      | false => rfl
      | true => exact absurd (tmpl c (atP ▸ before) isTemplate).1 (by simp [plain])
    · exact plain

theorem calm_mapBund {w : BundWorld n} (kept : WellKept w) (p : Nat) {f : Bundle n → Bundle n}
    (same : ∀ b, SamePeer b (f b)) (tmpl : ∀ b, (f b).tmpl = true → b.tmpl = true) :
    Calm w (w.mapBund p f) := by
  refine ⟨fun _ _ up => up, fun q b found => ?_, fun q absent => none_of_mapBund absent,
    kept.mapBund p fun b _ isTemplate => ⟨tmpl b isTemplate, (same b).n_up⟩⟩
  obtain ⟨c, before, rfl⟩ := some_of_mapBund found
  refine .inl ⟨c, before, ?_⟩
  split_ifs
  · exact same c
  · exact .refl c

theorem WellKept.setLink {w v : BundWorld n} (kept : WellKept w) {l : Nat} {link : BundLink n}
    (bunds : v.bunds = w.bunds) (nextBund : v.nextBund = w.nextBund)
    (links : v.links = Function.update w.links l (some link)) (fits : LinkFits w link) :
    WellKept v := by
  refine ⟨?_, ?_, fun m x found => ?_⟩
  · rw [bunds, nextBund]
    exact kept.freshBund
  · rw [bunds]
    exact kept.bundTemplate
  · have fitting : LinkFits w x := by
      rw [links] at found
      rcases some_of_update found with ⟨-, rfl⟩ | ⟨-, before⟩
      · exact fits
      · exact kept.links m x before
    exact ⟨bunds ▸ fitting.known, fitting.template, fitting.network⟩

/-- A link is written that fits, and that is up only where it was up before. -/
theorem calm_setLink {w v : BundWorld n} (kept : WellKept w) {l : Nat} {link : BundLink n}
    (bunds : v.bunds = w.bunds) (nextBund : v.nextBund = w.nextBund)
    (links : v.links = Function.update w.links l (some link)) (fits : LinkFits w link)
    (up : link.joined_bund = true → ∀ p, link.bund = some p → UpIn w p l) : Calm w v := by
  refine ⟨fun p m isUp => ?_, fun p b found => .inl ⟨b, bunds ▸ found, .refl b⟩,
    fun p => bunds ▸ id, kept.setLink bunds nextBund links fits⟩
  rcases upIn_update links isUp with ⟨rfl, joined, points⟩ | ⟨-, before⟩
  · exact up joined p points
  · exact before

theorem mapLink_some {w : BundWorld n} {l : Nat} {link : BundLink n}
    (found : w.links l = some link) (f : BundLink n → BundLink n) :
    (w.mapLink l f).links = Function.update w.links l (some (f link)) := by
  unfold BundWorld.mapLink
  rw [found, Option.map_some]

theorem calm_mapLink {w : BundWorld n} (kept : WellKept w) (l : Nat)
    {f : BundLink n → BundLink n}
    (fits : ∀ link, w.links l = some link → LinkFits w (f link) ∧
      ((f link).joined_bund = true → ∀ p, (f link).bund = some p → UpIn w p l)) :
    Calm w (w.mapLink l f) := by
  cases found : w.links l with
  | none =>
      refine calm_same kept rfl ?_ rfl
      unfold BundWorld.mapLink
      rw [found, Option.map_none, ← found, Function.update_eq_self]
  | some link =>
      obtain ⟨fitting, up⟩ := fits link found
      exact calm_setLink kept rfl rfl (mapLink_some found f) fitting up

/-- A link changes in what its bundle does not look at. -/
theorem calm_mapLink_same {w : BundWorld n} (kept : WellKept w) (l : Nat)
    {f : BundLink n → BundLink n} (joined : ∀ link, (f link).joined_bund = link.joined_bund)
    (bund : ∀ link, (f link).bund = link.bund) (tmpl : ∀ link, (f link).tmpl = true → link.tmpl = true)
    (network : ∀ link, link.network = true → (f link).network = true) :
    Calm w (w.mapLink l f) := by
  refine calm_mapLink kept l fun link found => ?_
  obtain ⟨known, template, inNetwork⟩ := kept.links l link found
  refine ⟨⟨?_, ?_, ?_⟩, ?_⟩
  · rw [bund]
    exact known
  · intro isTemplate
    rw [joined]
    exact template (tmpl link isTemplate)
  · intro isUp
    rw [joined] at isUp
    exact network link (inNetwork isUp)
  · intro isUp p points
    exact ⟨link, found, (joined link).symm.trans isUp, (bund link).symm.trans points⟩

/-- A link loses its bundle. -/
theorem calm_unlink {w : BundWorld n} (kept : WellKept w) (l : Nat) :
    Calm w (w.mapLink l fun link => { link with bund := none }) := by
  refine calm_mapLink kept l fun link found => ?_
  obtain ⟨-, template, network⟩ := kept.links l link found
  exact ⟨⟨nofun, template, network⟩, fun _ => nofun⟩

section Shutdown

theorem linkShutdown_calm {w : BundWorld n} (kept : WellKept w) (l : Nat) :
    Calm w (linkShutdown w l) := by
  unfold linkShutdown
  split
  · exact .refl kept
  · rename_i link atLink
    dsimp only
    have buried {v : BundWorld n} (calm : Calm w v) (gLinks : List (Option Nat)) :
        Calm w (({ v with gLinks := gLinks } : BundWorld n).mapLink l
          fun link => { link with dead := true }) := by
      have stored := calm.trans (calm_same (v := { v with gLinks := gLinks }) calm.kept rfl rfl rfl)
      exact stored.trans (calm_mapLink_same stored.kept l (fun _ => rfl) (fun _ => rfl)
        (fun _ => id) fun _ => id)
    cases points : link.bund with
    | none => exact buried (.refl kept) _
    | some p =>
        have counted := calm_mapBund kept p (f := fun b => { b with
          links := Function.update b.links link.bundleIndex none, n_links := b.n_links - 1 })
          (fun _ => ⟨rfl, rfl, rfl, rfl⟩) fun _ => id
        exact buried (counted.trans (calm_unlink counted.kept l)) _

theorem bundShutdownSlot_calm (p : Nat) {w : BundWorld n} (kept : WellKept w) (k : Fin n) :
    Calm w (bundShutdownSlot p w k) := by
  unfold bundShutdownSlot
  split
  · exact .refl kept
  · split
    · exact .refl kept
    · split_ifs
      · rename_i l atSlot _ link atLink static
        have unlinked := calm_unlink kept l
        exact unlinked.trans (calm_mapBund unlinked.kept p (fun _ => ⟨rfl, rfl, rfl, rfl⟩) fun _ => id)
      · exact linkShutdown_calm kept _

theorem bundShutdown_calm {w : BundWorld n} (kept : WellKept w) (p : Nat) :
    Calm w (bundShutdown w p) := by
  have slots (ks : List (Fin n)) {w : BundWorld n} (kept : WellKept w) :
      Calm w (ks.foldl (bundShutdownSlot p) w) := by
    induction ks generalizing w with
    | nil => exact .refl kept
    | cons k ks ih =>
        have first := bundShutdownSlot_calm p kept k
        exact first.trans (ih first.kept)
  unfold bundShutdown
  split
  · exact .refl kept
  · rename_i b atBund
    have emptied := slots (List.finRange n) kept
    dsimp only
    generalize (List.finRange n).foldl (bundShutdownSlot p) w = v at emptied
    have stored := emptied.trans
      (calm_same (v := { v with gBundles := v.gBundles.set b.id none }) emptied.kept rfl rfl rfl)
    exact stored.trans (calm_mapBund stored.kept p (fun _ => ⟨rfl, rfl, rfl, rfl⟩) fun _ => id)

end Shutdown

section Creation

/-- A bundle is instantiated from one without links up. -/
theorem bundInst_calm {w : BundWorld n} (kept : WellKept w) {bt : Bundle n} (down : bt.n_up = 0)
    (name : Option String) (tmpl stay ngInit : Bool) :
    Calm w (bundInst w bt name tmpl stay ngInit).2 := by
  unfold bundInst
  dsimp only
  split
  · have fresh := kept.freshBund w.nextBund le_rfl
    have away (l : Nat) (link : BundLink n) (found : w.links l = some link) :
        link.bund ≠ some w.nextBund := by
      intro points
      obtain ⟨b, atBund, -⟩ := (kept.links l link found).known _ points
      simp [fresh] at atBund
    refine ⟨fun _ _ up => up, fun p b found => ?_, fun p absent => ?_, fun p above => ?_,
      fun p b found => ?_, fun l link found => ?_⟩
    · dsimp only at found
      rcases some_of_update found with ⟨rfl, rfl⟩ | ⟨-, before⟩
      · refine .inr ⟨fresh, fun l up => ?_, down⟩
        obtain ⟨link, atLink, -, points⟩ := up
        exact away l link atLink points
      · exact .inl ⟨b, before, .refl b⟩
    · dsimp only at absent
      by_cases same : p = w.nextBund
      · rw [same, Function.update_self] at absent
        exact nomatch absent
      · rwa [Function.update_of_ne same] at absent
    · have above : w.nextBund + 1 ≤ p := above
      dsimp only
      rw [Function.update_of_ne (by omega)]
      exact kept.freshBund p (by omega)
    · dsimp only at found
      rcases some_of_update found with ⟨-, rfl⟩ | ⟨-, before⟩
      · exact fun _ => down
      · exact kept.bundTemplate p b before
    · obtain ⟨known, template, network⟩ := kept.links l link found
      refine ⟨fun p points => ?_, template, network⟩
      obtain ⟨b, atBund, plain⟩ := known p points
      refine ⟨b, ?_, plain⟩
      have other : p ≠ w.nextBund := fun same => away l link found (same ▸ points)
      dsimp only
      rw [Function.update_of_ne other]
      exact atBund
  · exact calm_same kept rfl rfl rfl

/-- A link is instantiated from one that is not up. -/
theorem linkInst_calm {w : BundWorld n} (kept : WellKept w) {lt : BundLink n}
    (fits : LinkFits w lt) (down : lt.joined_bund = false) (name : Option String)
    (tmpl stay : Bool) : Calm w (linkInst w lt name tmpl stay).2 := by
  refine calm_setLink kept rfl rfl rfl ⟨fits.known, fun _ => down, fun up => ?_⟩ fun up => ?_
  · have up : lt.joined_bund = true := up
    simp [down] at up
  · have up : lt.joined_bund = true := up
    simp [down] at up

/-- A link that is not up is attached to a bundle. -/
theorem bundAttach_calm {w : BundWorld n} (kept : WellKept w) {p l : Nat} {b : Bundle n}
    (atBund : w.bunds p = some b) (plain : b.tmpl = false)
    (down : ∀ link, w.links l = some link → link.joined_bund = false) (k : Fin n) :
    Calm w (bundAttach w p l k) := by
  have linked : Calm w (w.mapLink l fun link => { link with bund := some p, bundleIndex := k }) := by
    refine calm_mapLink kept l fun link found => ?_
    obtain ⟨-, template, network⟩ := kept.links l link found
    refine ⟨⟨fun q points => ?_, template, network⟩, fun up => ?_⟩
    · obtain rfl := Option.some.inj points
      exact ⟨b, atBund, plain⟩
    · have up : link.joined_bund = true := up
      simp [down link found] at up
  exact linked.trans (calm_mapBund linked.kept p (fun _ => ⟨rfl, rfl, rfl, rfl⟩) fun _ => id)

theorem bundCreate_calm {w : BundWorld n} (kept : WellKept w) (name : String) (tmpl stay : Bool)
    (bt : Option String) (conf : BundConf n) (ngInit : Bool) :
    Calm w (bundCreate w name tmpl stay bt conf ngInit) := by
  unfold bundCreate
  split_ifs
  · exact .refl kept
  · split
    · rename_i template
      split
      · exact .refl kept
      · rename_i c found
        split_ifs with isTemplate
        · obtain ⟨p, -, atBund⟩ := Option.bind_eq_some_iff.mp found
          exact bundInst_calm kept (kept.bundTemplate p c atBund isTemplate) _ _ _ _
        · exact .refl kept
    · exact bundInst_calm kept rfl _ _ _ _

theorem linkCreate_calm [NeZero n] {w : BundWorld n} (kept : WellKept w) (name : LinkRef)
    (tmpl stay : Bool) (lt : Option LinkRef) : Calm w (linkCreate w name tmpl stay lt) := by
  unfold linkCreate
  split_ifs
  · exact .refl kept
  · split
    · split
      · exact .refl kept
      · rename_i link found
        split_ifs with isTemplate
        · obtain ⟨l, -, atLink⟩ := Option.bind_eq_some_iff.mp found
          have fits := kept.links l link atLink
          exact linkInst_calm kept fits (fits.template isTemplate) _ _ _
        · exact .refl kept
    · exact linkInst_calm kept ⟨by simp [linkNew], fun _ => rfl, by simp [linkNew]⟩ rfl _ _ _

theorem bundDestroy_calm {w : BundWorld n} (kept : WellKept w) (p : Nat) :
    Calm w (bundDestroy w p) := by
  unfold bundDestroy
  split
  · exact .refl kept
  · dsimp only
    have freed := calm_mapBund kept p (f := fun b => { b with tmpl := false, stay := false })
      (fun _ => ⟨rfl, rfl, rfl, rfl⟩) (fun _ => nofun)
    have unpinned := calm_mapBund kept p (f := fun b => { b with stay := false })
      (fun _ => ⟨rfl, rfl, rfl, rfl⟩) (fun _ => id)
    split_ifs
    · exact freed.trans (bundShutdown_calm freed.kept p)
    · exact unpinned
    · exact unpinned.trans (bundShutdown_calm unpinned.kept p)

theorem linkDestroy_calm {w : BundWorld n} (kept : WellKept w) (l : Nat) :
    Calm w (linkDestroy w l) := by
  unfold linkDestroy
  split
  · exact .refl kept
  · split_ifs
    · have freed := calm_mapLink_same kept l
        (f := fun link => { link with tmpl := false, stay := false }) (fun _ => rfl) (fun _ => rfl)
        (fun _ => nofun) (fun _ => id)
      exact freed.trans (linkShutdown_calm freed.kept l)
    · exact calm_mapLink_same kept l (fun _ => rfl) (fun _ => rfl) (fun _ => id) (fun _ => id)

end Creation

end

end Mpd.Membership
