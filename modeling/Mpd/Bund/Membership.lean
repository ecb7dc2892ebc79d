import Mpd.Bund.Defs

/-! Who is in which bundle: the two counters of a bundle, its slots and the pointers
back agree in every run in which no netgraph join fails on a bundle that outlives it, no
attached link is attached again and no joined link is shut down. -/

set_option autoImplicit false

namespace Mpd.Membership

section
variable {n : Nat}

def slotUp (links : Nat → Option (BundLink n)) (slot : Option Nat) : Bool :=
  (slot.bind links).any (·.joined_bund)

def countSlots (test : Fin n → Bool) : Nat :=
  (Finset.univ.filter fun k => test k = true).card

theorem countSlots_le (test : Fin n → Bool) : countSlots test ≤ n := by
  simpa [countSlots] using Finset.card_filter_le (Finset.univ (α := Fin n)) fun k => test k = true

theorem countSlots_gain (before after : Fin n → Bool) (i : Fin n)
    (same : ∀ k, k ≠ i → after k = before k) (out : before i = false) (into : after i = true) :
    countSlots after = countSlots before + 1 := by
  have added : (Finset.univ.filter fun k => after k = true) =
      insert i (Finset.univ.filter fun k => before k = true) := by
    ext k
    by_cases atIndex : k = i
    · simp [atIndex, into]
    · simp [atIndex, same k atIndex]
  rw [countSlots, added, Finset.card_insert_of_notMem (by simp [out]), countSlots]

theorem toNat_gain {count : UInt16} {slots : Nat} (counted : count.toNat = slots)
    (fits : slots + 1 < 65536) : (count + 1).toNat = slots + 1 := by
  rw [UInt16.toNat_add, counted]
  exact Nat.mod_eq_of_lt fits

theorem toNat_loss {count : UInt16} {slots : Nat} (counted : count.toNat = slots + 1) :
    (count - 1).toNat = slots := by
  have bounded := count.toNat_lt
  rw [UInt16.toNat_sub]
  simp only [UInt16.toNat_one]
  omega

structure BundCounts (links : Nat → Option (BundLink n)) (b : Bundle n) : Prop where
  n_links : b.n_links.toNat = countSlots fun k => (b.links k).isSome
  n_up : b.n_up.toNat = countSlots fun k => slotUp links (b.links k)

def SlotsPointBack (links : Nat → Option (BundLink n)) (p : Nat) (b : Bundle n) : Prop :=
  ∀ k l, b.links k = some l ↔
    ∃ link, links l = some link ∧ link.bund = some p ∧ link.bundleIndex = k

/-- Every bundle that is still there has its counters and its pointers right. -/
def BundAccounted (w : BundWorld n) : Prop :=
  ∀ p b, w.bunds p = some b → b.dead = false →
    BundCounts w.links b ∧ SlotsPointBack w.links p b

/-- The accounting with what it rests on. `skip` is a bundle on its way out, whose
counters no longer matter. -/
structure BundInv (skip : Option Nat) (w : BundWorld n) : Prop where
  counts : ∀ p b, w.bunds p = some b → b.dead = false → skip ≠ some p → BundCounts w.links b
  slots : ∀ p b, w.bunds p = some b → b.dead = false → SlotsPointBack w.links p b
  joined : ∀ l link, w.links l = some link → link.joined_bund = true →
    link.network = true ∧ (link.dead = true ∨ link.bund ≠ none)
  template : ∀ l link, w.links l = some link → link.tmpl = true →
    link.bund = none ∧ link.joined_bund = false
  bundTemplate : ∀ p b, w.bunds p = some b → b.tmpl = true →
    b.links = (fun _ => none) ∧ b.n_links = 0 ∧ b.n_up = 0 ∧ b.dead = false
  known : ∀ l link p, w.links l = some link → link.bund = some p →
    ∃ b, w.bunds p = some b ∧ b.tmpl = false ∧ b.dead = false
  listedBund : ∀ i p, w.gBundles[i]? = some (some p) →
    ∃ b, w.bunds p = some b ∧ b.id = i ∧ b.dead = false
  listed : ∀ i l, w.gLinks[i]? = some (some l) →
    ∃ link, w.links l = some link ∧ link.id = i ∧ link.dead = false
  freshBund : ∀ p, w.nextBund ≤ p → w.bunds p = none
  freshLink : ∀ l, w.nextLink ≤ l → w.links l = none

/-- What is still listed once a link's own entry is cleared is some other link. -/
theorem BundInv.listed_set {skip : Option Nat} {w : BundWorld n} (inv : BundInv skip w)
    {l i m : Nat} {link : BundLink n} (atLink : w.links l = some link)
    (found : (w.gLinks.set link.id none)[i]? = some (some m)) :
    m ≠ l ∧ ∃ x, w.links m = some x ∧ x.id = i ∧ x.dead = false := by
  rw [List.getElem?_set] at found
  split at found
  · split at found <;> simp at found
  case isFalse away =>
    obtain ⟨x, hx, atIndex, alive⟩ := inv.listed i m found
    refine ⟨fun same => away ?_, x, hx, atIndex, alive⟩
    rw [same, atLink, Option.some.injEq] at hx
    rw [hx, atIndex]

/-- `v` is `w` with one bundle and one link changed, and the link was and is in that
bundle or in none. -/
structure BundMove (w v : BundWorld n) (p l : Nat) (b b' : Bundle n) (link link' : BundLink n) :
    Prop where
  atBund : w.bunds p = some b
  atLink : w.links l = some link
  bunds : v.bunds = Function.update w.bunds p (some b')
  links : v.links = Function.update w.links l (some link')
  nextBund : v.nextBund = w.nextBund
  nextLink : v.nextLink = w.nextLink
  gLinks : v.gLinks = w.gLinks ∧ link'.dead = link.dead ∨
    v.gLinks = w.gLinks.set link.id none ∧ link'.dead = true
  gBundles : v.gBundles = w.gBundles
  plain : b.tmpl = false ∧ b'.tmpl = false ∧ link.tmpl = false ∧ link'.tmpl = false
  same : b'.dead = b.dead ∧ b'.id = b.id ∧ link'.id = link.id
  before : link.bund = none ∨ link.bund = some p
  after : link'.bund = none ∨ link'.bund = some p ∧ b.dead = false

theorem BundInv.move {skip left : Option Nat} {w v : BundWorld n} {p l : Nat} {b b' : Bundle n}
    {link link' : BundLink n} (inv : BundInv skip w) (move : BundMove w v p l b b' link link')
    (skipped : left = skip ∨ skip = none ∧ left = some p)
    (joined : link'.joined_bund = true →
      link'.network = true ∧ (link'.dead = true ∨ link'.bund ≠ none))
    (counts : b'.dead = false → left ≠ some p → BundCounts v.links b')
    (slots : b'.dead = false → SlotsPointBack v.links p b') : BundInv left v := by
  obtain ⟨hb, hl, hbunds, hlinks, hnb, hnl, hg, hgb, ⟨tb, tb', tl, tl'⟩, ⟨db, ib, il⟩, before,
      after⟩ :=
    move
  -- a slot of another bundle does not hold the link, before or after
  have apart : ∀ q c, q ≠ p → w.bunds q = some c → c.dead = false → ∀ k, c.links k ≠ some l := by
    intro q c other found there k holds
    obtain ⟨x, hx, points, _⟩ := (inv.slots q c found there k l).mp holds
    rw [hl, Option.some.injEq] at hx
    subst hx
    rcases before with h | h
    · simp [h] at points
    · exact other (by simpa [h, eq_comm] using points)
  constructor
  · intro q c found there kept
    rw [hbunds] at found
    by_cases same : q = p
    · subst same
      obtain rfl : b' = c := by simpa using found
      exact counts there kept
    · rw [Function.update_of_ne same] at found
      have old := inv.counts q c found there (by rcases skipped with h | h <;> simp_all)
      refine ⟨old.n_links, old.n_up.trans ?_⟩
      congr 1
      funext k
      cases slot : c.links k with
      | none => rfl
      | some m =>
          have other : m ≠ l := fun h => apart q c same found there k (h ▸ slot)
          simp [slotUp, hlinks, Function.update_of_ne other]
  · intro q c found there
    rw [hbunds] at found
    by_cases same : q = p
    · subst same
      obtain rfl : b' = c := by simpa using found
      exact slots there
    · rw [Function.update_of_ne same] at found
      intro k m
      rw [inv.slots q c found there k m, hlinks]
      by_cases moved : m = l
      · subst moved
        have out : link.bund ≠ some q := by
          rcases before with h | h <;> simp [h, Ne.symm same]
        have still : link'.bund ≠ some q := by
          rcases after with h | ⟨h, _⟩ <;> simp [h, Ne.symm same]
        simp [hl, out, still]
      · rw [Function.update_of_ne moved]
  · intro m x found
    rw [hlinks] at found
    by_cases moved : m = l
    · subst moved
      obtain rfl : link' = x := by simpa using found
      exact joined
    · exact inv.joined m x (by rwa [Function.update_of_ne moved] at found)
  · intro m x found
    rw [hlinks] at found
    by_cases moved : m = l
    · subst moved
      obtain rfl : link' = x := by simpa using found
      simp [tl']
    · exact inv.template m x (by rwa [Function.update_of_ne moved] at found)
  · intro q c found
    rw [hbunds] at found
    by_cases same : q = p
    · subst same
      obtain rfl : b' = c := by simpa using found
      simp [tb']
    · exact inv.bundTemplate q c (by rwa [Function.update_of_ne same] at found)
  · intro m x q found points
    have target : q = p ∧ b.dead = false ∨
        ∃ c, w.bunds q = some c ∧ c.tmpl = false ∧ c.dead = false := by
      rw [hlinks] at found
      by_cases moved : m = l
      · subst moved
        obtain rfl : link' = x := by simpa using found
        rcases after with h | ⟨h, there⟩
        · simp [h] at points
        · exact .inl ⟨by simpa [h, eq_comm] using points, there⟩
      · exact .inr (inv.known m x q (by rwa [Function.update_of_ne moved] at found) points)
    rw [hbunds]
    rcases target with ⟨rfl, there⟩ | ⟨c, known, plain, there⟩
    · exact ⟨b', by simp, tb', db.trans there⟩
    · by_cases same : q = p
      · subst same
        rw [hb, Option.some.injEq] at known
        subst known
        exact ⟨b', by simp, tb', db.trans there⟩
      · exact ⟨c, by rwa [Function.update_of_ne same], plain, there⟩
  · intro i q found
    rw [hgb] at found
    obtain ⟨c, known, atIndex, there⟩ := inv.listedBund i q found
    rw [hbunds]
    by_cases same : q = p
    · subst same
      rw [hb, Option.some.injEq] at known
      subst known
      exact ⟨b', by simp, ib.trans atIndex, db.trans there⟩
    · exact ⟨c, by rwa [Function.update_of_ne same], atIndex, there⟩
  · intro i m found
    rw [hlinks]
    rcases hg with ⟨hg, dl⟩ | ⟨hg, _⟩
    · rw [hg] at found
      obtain ⟨x, hx, atIndex, alive⟩ := inv.listed i m found
      by_cases moved : m = l
      · subst moved
        rw [hl, Option.some.injEq] at hx
        subst hx
        exact ⟨link', by simp, il.trans atIndex, dl.trans alive⟩
      · exact ⟨x, by rwa [Function.update_of_ne moved], atIndex, alive⟩
    · rw [hg] at found
      obtain ⟨moved, x, hx, atIndex, alive⟩ := inv.listed_set hl found
      exact ⟨x, by rwa [Function.update_of_ne moved], atIndex, alive⟩
  · intro q later
    rw [hnb] at later
    have free := inv.freshBund q later
    have other : q ≠ p := fun h => by simp [h, hb] at free
    rwa [hbunds, Function.update_of_ne other]
  · intro m later
    rw [hnl] at later
    have free := inv.freshLink m later
    have other : m ≠ l := fun h => by simp [h, hl] at free
    rwa [hlinks, Function.update_of_ne other]

/-- A change of one link that leaves its bundle, its index and its joining alone. -/
theorem BundInv.relink {skip : Option Nat} {w v : BundWorld n} {l : Nat} {link link' : BundLink n}
    (inv : BundInv skip w) (atLink : w.links l = some link)
    (bunds : v.bunds = w.bunds) (links : v.links = Function.update w.links l (some link'))
    (next : v.nextBund = w.nextBund ∧ v.nextLink = w.nextLink ∧ v.gBundles = w.gBundles)
    (gLinks : v.gLinks = w.gLinks ∧ link'.dead = link.dead ∨
      v.gLinks = w.gLinks.set link.id none ∧ link'.dead = true)
    (same : link'.bund = link.bund ∧ link'.bundleIndex = link.bundleIndex ∧
      link'.joined_bund = link.joined_bund ∧ link'.id = link.id)
    (plain : link'.tmpl = true → link.tmpl = true)
    (joined : link'.joined_bund = true →
      link'.network = true ∧ (link'.dead = true ∨ link'.bund ≠ none)) : BundInv skip v := by
  obtain ⟨sameBund, sameIndex, sameJoined, sameId⟩ := same
  have up : ∀ slot, slotUp v.links slot = slotUp w.links slot := by
    intro slot
    cases slot with
    | none => rfl
    | some m =>
        by_cases moved : m = l
        · simp [slotUp, links, moved, atLink, sameJoined]
        · simp [slotUp, links, Function.update_of_ne moved]
  constructor
  · intro q c found there kept
    rw [bunds] at found
    have old := inv.counts q c found there kept
    exact ⟨old.n_links, by simpa only [up] using old.n_up⟩
  · intro q c found there k m
    rw [bunds] at found
    rw [inv.slots q c found there k m, links]
    by_cases moved : m = l
    · simp [moved, atLink, sameBund, sameIndex]
    · rw [Function.update_of_ne moved]
  · intro m x found
    rw [links] at found
    by_cases moved : m = l
    · subst moved
      obtain rfl : link' = x := by simpa using found
      exact joined
    · exact inv.joined m x (by rwa [Function.update_of_ne moved] at found)
  · intro m x found template
    rw [links] at found
    by_cases moved : m = l
    · subst moved
      obtain rfl : link' = x := by simpa using found
      rw [sameBund, sameJoined]
      exact inv.template m link atLink (plain template)
    · exact inv.template m x (by rwa [Function.update_of_ne moved] at found) template
  · intro q c found
    rw [bunds] at found
    exact inv.bundTemplate q c found
  · intro m x q found points
    rw [links] at found
    rw [bunds]
    by_cases moved : m = l
    · subst moved
      obtain rfl : link' = x := by simpa using found
      exact inv.known m link q atLink (sameBund ▸ points)
    · exact inv.known m x q (by rwa [Function.update_of_ne moved] at found) points
  · rw [bunds, next.2.2]
    exact inv.listedBund
  · intro i m found
    rw [links]
    rcases gLinks with ⟨hg, dl⟩ | ⟨hg, _⟩
    · rw [hg] at found
      obtain ⟨x, hx, atIndex, alive⟩ := inv.listed i m found
      by_cases moved : m = l
      · subst moved
        rw [atLink, Option.some.injEq] at hx
        subst hx
        exact ⟨link', by simp, sameId.trans atIndex, dl.trans alive⟩
      · exact ⟨x, by rwa [Function.update_of_ne moved], atIndex, alive⟩
    · rw [hg] at found
      obtain ⟨moved, x, hx, atIndex, alive⟩ := inv.listed_set atLink found
      exact ⟨x, by rwa [Function.update_of_ne moved], atIndex, alive⟩
  · intro q later
    rw [bunds]
    exact inv.freshBund q (next.1 ▸ later)
  · intro m later
    rw [next.2.1] at later
    have free := inv.freshLink m later
    have other : m ≠ l := fun h => by simp [h, atLink] at free
    rwa [links, Function.update_of_ne other]

theorem BundInv.mapLink {skip : Option Nat} {w : BundWorld n} (inv : BundInv skip w) {l : Nat}
    {link : BundLink n} (atLink : w.links l = some link) {f : BundLink n → BundLink n}
    (same : (f link).bund = link.bund ∧ (f link).bundleIndex = link.bundleIndex ∧
      (f link).joined_bund = link.joined_bund ∧ (f link).id = link.id)
    (alive : (f link).dead = link.dead) (plain : (f link).tmpl = true → link.tmpl = true)
    (joined : (f link).joined_bund = true →
      (f link).network = true ∧ ((f link).dead = true ∨ (f link).bund ≠ none)) :
    BundInv skip (w.mapLink l f) :=
  inv.relink atLink rfl (by simp [BundWorld.mapLink, atLink]) ⟨rfl, rfl, rfl⟩ (.inl ⟨rfl, alive⟩)
    same plain joined

/-- A change of one bundle that leaves its slots and its counters alone. -/
theorem BundInv.rebund {skip : Option Nat} {w v : BundWorld n} {p : Nat} {b b' : Bundle n}
    (inv : BundInv skip w) (atBund : w.bunds p = some b)
    (bunds : v.bunds = Function.update w.bunds p (some b')) (links : v.links = w.links)
    (next : v.nextBund = w.nextBund ∧ v.nextLink = w.nextLink)
    (arrays : v.gLinks = w.gLinks ∧ v.gBundles = w.gBundles)
    (same : b'.links = b.links ∧ b'.n_links = b.n_links ∧ b'.n_up = b.n_up ∧
      b'.dead = b.dead ∧ b'.id = b.id)
    (plain : b'.tmpl = true → b.tmpl = true) : BundInv skip v := by
  obtain ⟨sameLinks, sameCount, sameUp, sameDead, sameId⟩ := same
  constructor
  · intro q c found there kept
    rw [bunds] at found
    rw [links]
    by_cases moved : q = p
    · subst moved
      obtain rfl : b' = c := by simpa using found
      have old := inv.counts q b atBund (sameDead ▸ there) kept
      exact ⟨by rw [sameCount, sameLinks]; exact old.n_links,
        by rw [sameUp, sameLinks]; exact old.n_up⟩
    · exact inv.counts q c (by rwa [Function.update_of_ne moved] at found) there kept
  · intro q c found there
    rw [bunds] at found
    rw [links]
    by_cases moved : q = p
    · subst moved
      obtain rfl : b' = c := by simpa using found
      have old := inv.slots q b atBund (sameDead ▸ there)
      intro k m
      rw [sameLinks]
      exact old k m
    · exact inv.slots q c (by rwa [Function.update_of_ne moved] at found) there
  · rw [links]
    exact inv.joined
  · rw [links]
    exact inv.template
  · intro q c found template
    rw [bunds] at found
    by_cases moved : q = p
    · subst moved
      obtain rfl : b' = c := by simpa using found
      rw [sameLinks, sameCount, sameUp, sameDead]
      exact inv.bundTemplate q b atBund (plain template)
    · exact inv.bundTemplate q c (by rwa [Function.update_of_ne moved] at found) template
  · intro m x q found points
    rw [links] at found
    obtain ⟨c, known, notTemplate, there⟩ := inv.known m x q found points
    rw [bunds]
    by_cases moved : q = p
    · subst moved
      rw [atBund, Option.some.injEq] at known
      subst known
      exact ⟨b', by simp, Bool.eq_false_iff.mpr fun h => by simp [plain h] at notTemplate,
        sameDead.trans there⟩
    · exact ⟨c, by rwa [Function.update_of_ne moved], notTemplate, there⟩
  · intro i q found
    rw [arrays.2] at found
    obtain ⟨c, known, atIndex, there⟩ := inv.listedBund i q found
    rw [bunds]
    by_cases moved : q = p
    · subst moved
      rw [atBund, Option.some.injEq] at known
      subst known
      exact ⟨b', by simp, sameId.trans atIndex, sameDead.trans there⟩
    · exact ⟨c, by rwa [Function.update_of_ne moved], atIndex, there⟩
  · rw [links, arrays.1]
    exact inv.listed
  · intro q later
    rw [next.1] at later
    have free := inv.freshBund q later
    have other : q ≠ p := fun h => by simp [h, atBund] at free
    rwa [bunds, Function.update_of_ne other]
  · rw [links, next.2]
    exact inv.freshLink

theorem BundInv.mapBund {skip : Option Nat} {w : BundWorld n} (inv : BundInv skip w) (p : Nat)
    {f : Bundle n → Bundle n}
    (same : ∀ b, (f b).links = b.links ∧ (f b).n_links = b.n_links ∧ (f b).n_up = b.n_up ∧
      (f b).dead = b.dead ∧ (f b).id = b.id)
    (plain : ∀ b, (f b).tmpl = true → b.tmpl = true) : BundInv skip (w.mapBund p f) := by
  cases atBund : w.bunds p with
  | none =>
      have unchanged : w.mapBund p f = w := by
        simp [BundWorld.mapBund, atBund, Function.update_eq_self_iff.mpr]
      rwa [unchanged]
  | some b =>
      exact inv.rebund atBund (by simp [BundWorld.mapBund, atBund]) rfl ⟨rfl, rfl⟩ ⟨rfl, rfl⟩
        (same b) (plain b)

/-- A bundle that no link points to may end, and with it the exemption of its counters. -/
theorem BundInv.bury {w v : BundWorld n} {p : Nat} {b b' : Bundle n}
    (inv : BundInv (some p) w) (atBund : w.bunds p = some b)
    (bunds : v.bunds = Function.update w.bunds p (some b')) (links : v.links = w.links)
    (next : v.nextBund = w.nextBund ∧ v.nextLink = w.nextLink)
    (arrays : v.gLinks = w.gLinks ∧ v.gBundles = w.gBundles.set b.id none)
    (ends : b'.dead = true ∧ b'.tmpl = false)
    (alone : ∀ l link, w.links l = some link → link.bund ≠ some p) : BundInv none v := by
  have others : ∀ q c, v.bunds q = some c → c.dead = false → q ≠ p ∧ w.bunds q = some c := by
    intro q c found there
    rw [bunds] at found
    by_cases moved : q = p
    · subst moved
      obtain rfl : b' = c := by simpa using found
      simp [ends.1] at there
    · exact ⟨moved, by rwa [Function.update_of_ne moved] at found⟩
  constructor
  · intro q c found there _
    obtain ⟨other, before⟩ := others q c found there
    rw [links]
    exact inv.counts q c before there (by simpa [eq_comm] using other)
  · intro q c found there
    rw [links]
    exact inv.slots q c (others q c found there).2 there
  · rw [links]
    exact inv.joined
  · rw [links]
    exact inv.template
  · intro q c found template
    rw [bunds] at found
    by_cases moved : q = p
    · subst moved
      obtain rfl : b' = c := by simpa using found
      simp [ends.2] at template
    · exact inv.bundTemplate q c (by rwa [Function.update_of_ne moved] at found) template
  · intro m x q found points
    rw [links] at found
    obtain ⟨c, known, kept⟩ := inv.known m x q found points
    have other : q ≠ p := fun h => alone m x found (h ▸ points)
    exact ⟨c, by rwa [bunds, Function.update_of_ne other], kept⟩
  · intro i q found
    rw [arrays.2, List.getElem?_set] at found
    split at found
    · split at found <;> simp at found
    case isFalse away =>
      obtain ⟨c, known, atIndex, there⟩ := inv.listedBund i q found
      have other : q ≠ p := by
        intro same
        rw [same, atBund, Option.some.injEq] at known
        exact away (by rw [known, atIndex])
      exact ⟨c, by rwa [bunds, Function.update_of_ne other], atIndex, there⟩
  · rw [links, arrays.1]
    exact inv.listed
  · intro q later
    rw [next.1] at later
    have free := inv.freshBund q later
    have other : q ≠ p := fun h => by simp [h, atBund] at free
    rwa [bunds, Function.update_of_ne other]
  · rw [links, next.2]
    exact inv.freshLink

@[simp] theorem mapBund_bunds (w : BundWorld n) (p : Nat) (f : Bundle n → Bundle n) :
    (w.mapBund p f).bunds = Function.update w.bunds p ((w.bunds p).map f) := rfl

@[simp] theorem mapBund_links (w : BundWorld n) (p : Nat) (f : Bundle n → Bundle n) :
    (w.mapBund p f).links = w.links := rfl

@[simp] theorem mapBund_next (w : BundWorld n) (p : Nat) (f : Bundle n → Bundle n) :
    (w.mapBund p f).nextBund = w.nextBund ∧ (w.mapBund p f).nextLink = w.nextLink ∧
      (w.mapBund p f).gLinks = w.gLinks ∧ (w.mapBund p f).gBundles = w.gBundles :=
  ⟨rfl, rfl, rfl, rfl⟩

@[simp] theorem mapLink_bunds (w : BundWorld n) (l : Nat) (f : BundLink n → BundLink n) :
    (w.mapLink l f).bunds = w.bunds := rfl

@[simp] theorem mapLink_links (w : BundWorld n) (l : Nat) (f : BundLink n → BundLink n) :
    (w.mapLink l f).links = Function.update w.links l ((w.links l).map f) := rfl

@[simp] theorem mapLink_next (w : BundWorld n) (l : Nat) (f : BundLink n → BundLink n) :
    (w.mapLink l f).nextBund = w.nextBund ∧ (w.mapLink l f).nextLink = w.nextLink ∧
      (w.mapLink l f).gLinks = w.gLinks ∧ (w.mapLink l f).gBundles = w.gBundles :=
  ⟨rfl, rfl, rfl, rfl⟩

theorem BundInv.no_slot {skip : Option Nat} {w : BundWorld n} (inv : BundInv skip w)
    {p l : Nat} {b : Bundle n} {link : BundLink n} (atBund : w.bunds p = some b)
    (there : b.dead = false) (atLink : w.links l = some link) (free : link.bund = none)
    (k : Fin n) : b.links k ≠ some l := by
  intro holds
  obtain ⟨x, hx, points, _⟩ := (inv.slots p b atBund there k l).mp holds
  rw [atLink, Option.some.injEq] at hx
  simp [← hx, free] at points

theorem slotUp_other {links : Nat → Option (BundLink n)} {l : Nat} {link : Option (BundLink n)}
    {slot : Option Nat} (other : slot ≠ some l) :
    slotUp (Function.update links l link) slot = slotUp links slot := by
  cases slot with
  | none => rfl
  | some m =>
      have moved : m ≠ l := fun h => other (congrArg some h)
      simp [slotUp, Function.update_of_ne moved]

theorem bundAttach_inv (fits : n < 65536) {skip : Option Nat} {w : BundWorld n}
    (inv : BundInv skip w) {p l : Nat} {b : Bundle n} {link : BundLink n} {k : Fin n}
    (atBund : w.bunds p = some b) (atLink : w.links l = some link) (kept : skip ≠ some p)
    (plainBund : b.tmpl = false) (alive : b.dead = false) (plainLink : link.tmpl = false)
    (slot : b.links k = none)
    (free : link.bund = none) (apart : link.joined_bund = false) :
    BundInv skip (bundAttach w p l k) := by
  have move : BundMove w (bundAttach w p l k) p l b
      { b with links := Function.update b.links k (some l), n_links := b.n_links + 1 }
      link { link with bund := some p, bundleIndex := k } :=
    ⟨atBund, atLink, by simp [bundAttach, atBund], by simp [bundAttach, atLink], rfl, rfl,
      .inl ⟨rfl, rfl⟩, rfl, ⟨plainBund, plainBund, plainLink, plainLink⟩, ⟨rfl, rfl, rfl⟩,
      .inl free, .inr ⟨rfl, alive⟩⟩
  refine inv.move move (.inl rfl) ?_ ?_ ?_
  · simp [apart]
  · intro there _
    have old := inv.counts p b atBund there kept
    have linksNow : (bundAttach w p l k).links =
        Function.update w.links l (some { link with bund := some p, bundleIndex := k }) := by
      simp [bundAttach, atLink]
    have filled := countSlots_gain (fun i => (b.links i).isSome)
      (fun i => (Function.update b.links k (some l) i).isSome) k
      (fun i other => by simp [Function.update_of_ne other]) (by simp [slot]) (by simp)
    have room := filled ▸ countSlots_le
      fun i => (Function.update b.links k (some l) i).isSome
    refine ⟨(toNat_gain old.n_links (by omega)).trans filled.symm, old.n_up.trans ?_⟩
    congr 1
    funext i
    rw [linksNow]
    by_cases atIndex : i = k
    · subst atIndex
      simp [slotUp, slot, apart]
    · dsimp only
      rw [Function.update_of_ne atIndex]
      exact (slotUp_other (inv.no_slot atBund there atLink free i)).symm
  · intro there i m
    have old := inv.slots p b atBund there i m
    have linksNow : (bundAttach w p l k).links =
        Function.update w.links l (some { link with bund := some p, bundleIndex := k }) := by
      simp [bundAttach, atLink]
    rw [linksNow]
    by_cases moved : m = l
    · subst moved
      have nowhere := inv.no_slot atBund there atLink free i
      by_cases atIndex : i = k
      · simp [atIndex]
      · simp [Function.update_of_ne atIndex, nowhere, Ne.symm atIndex]
    · rw [Function.update_of_ne moved, ← old]
      by_cases atIndex : i = k
      · simp [atIndex, slot, Ne.symm moved]
      · simp [Function.update_of_ne atIndex]

theorem BundInv.up (fits : n < 65536) {skip : Option Nat} {w v : BundWorld n}
    {p l : Nat} {b b' : Bundle n} {link link' : BundLink n} (inv : BundInv skip w)
    (move : BundMove w v p l b b' link link') (points : link.bund = some p)
    (bund : link'.bund = link.bund ∧ link'.bundleIndex = link.bundleIndex)
    (before : link.joined_bund = false) (after : link'.joined_bund = true)
    (network : link'.network = true)
    (counters : b'.links = b.links ∧ b'.n_links = b.n_links ∧ b'.n_up = b.n_up + 1) :
    BundInv skip v := by
  obtain ⟨sameLinks, sameCount, gained⟩ := counters
  refine inv.move move (.inl rfl) (fun _ => ⟨network, .inr (by simp [bund.1, points])⟩) ?_ ?_
  · intro there kept
    rw [move.same.1] at there
    have old := inv.counts p b move.atBund there kept
    have slots := inv.slots p b move.atBund there
    have here := (slots link.bundleIndex l).mpr ⟨link, move.atLink, points, rfl⟩
    have up := countSlots_gain (fun k => slotUp w.links (b.links k))
      (fun k => slotUp v.links (b.links k)) link.bundleIndex
      (fun k other => by
        rw [move.links]
        refine slotUp_other fun holds => other ?_
        obtain ⟨x, hx, _, atIndex⟩ := (slots k l).mp holds
        rw [move.atLink, Option.some.injEq] at hx
        rw [hx, atIndex])
      (by simp [slotUp, here, move.atLink, before])
      (by simp [slotUp, here, move.links, after])
    have room := up ▸ countSlots_le fun k => slotUp v.links (b.links k)
    refine ⟨by rw [sameCount, sameLinks]; exact old.n_links, ?_⟩
    rw [gained, sameLinks]
    exact (toNat_gain old.n_up (by omega)).trans up.symm
  · intro there k m
    rw [move.same.1] at there
    rw [sameLinks, inv.slots p b move.atBund there k m, move.links]
    by_cases moved : m = l
    · simp [moved, move.atLink, bund.1, bund.2]
    · rw [Function.update_of_ne moved]

/-- A link is divorced from its bundle; the counters of the bundle follow, or the bundle is
on its way out. -/
theorem BundInv.detach {skip left : Option Nat} {w v : BundWorld n}
    {p l : Nat} {b b' : Bundle n} {link link' : BundLink n} (inv : BundInv skip w)
    (move : BundMove w v p l b b' link link') (points : link.bund = some p)
    (skipped : left = skip ∨ skip = none ∧ left = some p)
    (divorced : link'.bund = none) (joined : link'.joined_bund = true →
      link'.network = true ∧ (link'.dead = true ∨ link'.bund ≠ none))
    (slots : b'.links = Function.update b.links link.bundleIndex none)
    (counters : left ≠ some p → b'.n_links = b.n_links - 1 ∧
      b'.n_up = if link.joined_bund then b.n_up - 1 else b.n_up) : BundInv left v := by
  -- the link is in no other slot of its bundle
  have only : b.dead = false → ∀ k, k ≠ link.bundleIndex → b.links k ≠ some l := by
    intro there k other holds
    obtain ⟨x, hx, _, atIndex⟩ := (inv.slots p b move.atBund there k l).mp holds
    rw [move.atLink, Option.some.injEq] at hx
    exact other (by rw [hx, atIndex])
  have here : b.dead = false → b.links link.bundleIndex = some l := fun there =>
    (inv.slots p b move.atBund there link.bundleIndex l).mpr ⟨link, move.atLink, points, rfl⟩
  refine inv.move move skipped joined ?_ ?_
  · intro there kept
    rw [move.same.1] at there
    obtain ⟨lost, ups⟩ := counters kept
    have unskipped : skip ≠ some p := by rcases skipped with h | h <;> simp_all
    have old := inv.counts p b move.atBund there unskipped
    have filled := countSlots_gain (fun k => (b'.links k).isSome)
      (fun k => (b.links k).isSome) link.bundleIndex
      (fun k other => by simp [slots, Function.update_of_ne other]) (by simp [slots])
      (by simp [here there])
    have rest : ∀ k, k ≠ link.bundleIndex →
        slotUp v.links (b'.links k) = slotUp w.links (b.links k) := by
      intro k other
      rw [slots, Function.update_of_ne other, move.links]
      exact slotUp_other (only there k other)
    refine ⟨lost ▸ toNat_loss (old.n_links.trans filled), ?_⟩
    cases hjoined : link.joined_bund with
    | true =>
        have up := countSlots_gain (fun k => slotUp v.links (b'.links k))
          (fun k => slotUp w.links (b.links k)) link.bundleIndex
          (fun k other => (rest k other).symm) (by simp [slots, slotUp])
          (by simp [slotUp, here there, move.atLink, hjoined])
        rw [ups, hjoined]
        exact toNat_loss (old.n_up.trans up)
    | false =>
        rw [ups, hjoined]
        refine old.n_up.trans ?_
        congr 1
        funext k
        by_cases atIndex : k = link.bundleIndex
        · simp [atIndex, slots, slotUp, here there, move.atLink, hjoined]
        · exact (rest k atIndex).symm
  · intro there k m
    rw [move.same.1] at there
    rw [slots, move.links]
    by_cases moved : m = l
    · subst moved
      by_cases atIndex : k = link.bundleIndex
      · simp [atIndex, divorced]
      · simp [Function.update_of_ne atIndex, divorced, only there k atIndex]
    · rw [Function.update_of_ne moved, ← inv.slots p b move.atBund there k m]
      by_cases atIndex : k = link.bundleIndex
      · simp [atIndex, here there, Ne.symm moved]
      · rw [Function.update_of_ne atIndex]

theorem linkShutdown_inv {skip : Option Nat} {w : BundWorld n} (inv : BundInv skip w) (l : Nat)
    (apart : ∀ link, w.links l = some link → link.joined_bund = true →
      link.bund = none ∨ link.bund = skip) : BundInv skip (linkShutdown w l) := by
  unfold linkShutdown
  cases atLink : w.links l with
  | none => exact inv
  | some link =>
      dsimp only
      cases points : link.bund with
      | none =>
          have links : ({ w with gLinks := w.gLinks.set link.id none }.mapLink l
              fun link => { link with dead := true }).links =
              Function.update w.links l (some { link with dead := true }) := by simp [atLink]
          exact inv.relink atLink rfl links ⟨rfl, rfl, rfl⟩ (.inr ⟨rfl, rfl⟩)
            ⟨rfl, rfl, rfl, rfl⟩ id fun joined => ⟨(inv.joined l link atLink joined).1, .inl rfl⟩
      | some p =>
          obtain ⟨b, atBund, plain, there⟩ := inv.known l link p atLink points
          have plainLink : link.tmpl = false := Bool.eq_false_iff.mpr fun template => by
            simp [(inv.template l link atLink template).1] at points
          refine @BundInv.detach _ _ _ w _ p l b
            { b with
              links := Function.update b.links link.bundleIndex none, n_links := b.n_links - 1 }
            link { link with bund := none, dead := true } inv
            ⟨atBund, atLink, by simp [atBund], by simp [atLink], rfl, rfl, .inr ⟨rfl, rfl⟩, rfl,
              ⟨plain, plain, plainLink, plainLink⟩, ⟨rfl, rfl, rfl⟩, .inr points, .inl rfl⟩
            points (.inl rfl) rfl ?_ rfl ?_
          · exact fun joined => ⟨(inv.joined l link atLink joined).1, .inl rfl⟩
          · intro kept
            have never : link.joined_bund = false := by
              cases joined : link.joined_bund with
              | false => rfl
              | true => rcases apart link atLink joined with h | h <;> simp_all
            exact ⟨rfl, by simp [never]⟩

def NoStaticUp (w : BundWorld n) (p : Nat) : Prop :=
  ∀ l link, w.links l = some link → link.bund = some p → link.joined_bund = true →
    link.stay = false

/-- What the loop of `BundShutdown` keeps while it empties the slots before `k`. -/
structure Emptying (p : Nat) (w : BundWorld n) : Prop where
  inv : BundInv (some p) w
  noStatic : NoStaticUp w p
  there : ∃ b, w.bunds p = some b ∧ b.dead = false ∧ b.tmpl = false

/-- One turn empties its slot and fills none. -/
theorem bundShutdownSlot_inv {p : Nat} {w : BundWorld n} (before : Emptying p w) (k : Fin n) :
    Emptying p (bundShutdownSlot p w k) ∧
      ∀ b c, w.bunds p = some b → (bundShutdownSlot p w k).bunds p = some c →
        c.id = b.id ∧ c.links k = none ∧ ∀ i, b.links i = none → c.links i = none := by
  obtain ⟨inv, noStatic, b, atBund, alive, plain⟩ := before
  unfold bundShutdownSlot
  rw [atBund, Option.bind_some]
  cases slot : b.links k with
  | none =>
      refine ⟨⟨inv, noStatic, b, atBund, alive, plain⟩, ?_⟩
      intro _ c hb hc
      dsimp only at hc
      cases hb
      rw [atBund, Option.some.injEq] at hc
      subst hc
      exact ⟨rfl, slot, fun _ empty => empty⟩
  | some l =>
      obtain ⟨link, atLink, points, atIndex⟩ := (inv.slots p b atBund alive k l).mp slot
      have plainLink : link.tmpl = false := Bool.eq_false_iff.mpr fun template => by
        simp [(inv.template l link atLink template).1] at points
      simp only [atLink]
      split
      case isTrue static =>
        have apart : link.joined_bund = false := Bool.eq_false_iff.mpr fun joined => by
          simp [noStatic l link atLink points joined] at static
        refine ⟨⟨?_, ?_, ?_⟩, ?_⟩
        · exact @BundInv.detach _ _ _ w _ p l b { b with links := Function.update b.links k none }
            link { link with bund := none } inv
            ⟨atBund, atLink, by simp [atBund], by simp [atLink], rfl, rfl, .inl ⟨rfl, rfl⟩, rfl,
              ⟨plain, plain, plainLink, plainLink⟩, ⟨rfl, rfl, rfl⟩, .inr points, .inl rfl⟩
            points (.inl rfl) rfl (by simp [apart]) (by rw [atIndex]) (by simp)
        · intro m x found there joined
          by_cases moved : m = l
          · subst moved
            obtain rfl : { link with bund := none } = x := by simpa [atLink] using found
            simp at there
          · exact noStatic m x (by simpa [Function.update_of_ne moved] using found) there joined
        · exact ⟨{ b with links := Function.update b.links k none }, by simp [atBund], alive, plain⟩
        · intro _ c hb hc
          cases hb
          obtain rfl : { b with links := Function.update b.links k none } = c := by
            simpa [atBund] using hc
          refine ⟨rfl, by simp, fun i empty => ?_⟩
          by_cases same : i = k
          · simp [same]
          · simpa [Function.update_of_ne same] using empty
      case isFalse =>
        have shut : (linkShutdown w l).bunds p = some { b with
            links := Function.update b.links k none, n_links := b.n_links - 1 } := by
          simp [linkShutdown, atLink, points, atBund, atIndex]
        refine ⟨⟨linkShutdown_inv inv l ?_, ?_, _, shut, alive, plain⟩, ?_⟩
        · intro x found _
          rw [atLink, Option.some.injEq] at found
          exact .inr (found ▸ points)
        · intro m x found there joined
          by_cases moved : m = l
          · subst moved
            obtain rfl : { link with bund := none, dead := true } = x := by
              simpa [linkShutdown, atLink, points] using found
            simp at there
          · refine noStatic m x ?_ there joined
            simpa [linkShutdown, atLink, points, Function.update_of_ne moved] using found
        · intro _ c hb hc
          cases hb
          rw [shut, Option.some.injEq] at hc
          subst hc
          refine ⟨rfl, by simp, fun i empty => ?_⟩
          by_cases same : i = k
          · simp [same]
          · simpa [Function.update_of_ne same] using empty

theorem bundShutdown_loop {p : Nat} (slots : List (Fin n)) {w : BundWorld n}
    (before : Emptying p w) :
    Emptying p (slots.foldl (bundShutdownSlot p) w) ∧
      ∀ b c, w.bunds p = some b → (slots.foldl (bundShutdownSlot p) w).bunds p = some c →
        c.id = b.id ∧ ∀ i, i ∈ slots ∨ b.links i = none → c.links i = none := by
  induction slots generalizing w with
  | nil =>
      refine ⟨before, fun b c hb hc => ?_⟩
      obtain rfl : b = c := Option.some.inj (hb.symm.trans hc)
      exact ⟨rfl, fun i empty => empty.resolve_left (by simp)⟩
  | cons k slots ih =>
      obtain ⟨after, emptied⟩ := bundShutdownSlot_inv before k
      obtain ⟨finish, rest⟩ := ih after
      obtain ⟨d, atD, _⟩ := after.there
      refine ⟨finish, fun b c hb hc => ?_⟩
      obtain ⟨sameId, gone, kept⟩ := emptied b d hb atD
      obtain ⟨sameId', gone'⟩ := rest d c atD hc
      refine ⟨sameId'.trans sameId, fun i cause => ?_⟩
      rcases cause with member | empty
      · rcases List.mem_cons.mp member with rfl | later
        · exact gone' i (.inr gone)
        · exact gone' i (.inl later)
      · exact gone' i (.inr (kept i empty))

theorem bundShutdown_inv {w : BundWorld n} {p : Nat} (before : Emptying p w) :
    BundInv none (bundShutdown w p) := by
  obtain ⟨after, emptied⟩ := bundShutdown_loop (List.finRange n) before
  obtain ⟨b, atBund, _⟩ := before.there
  obtain ⟨c, atEnd, alive, plain⟩ := after.there
  obtain ⟨sameId, gone⟩ := emptied b c atBund atEnd
  unfold bundShutdown
  rw [atBund]
  dsimp only
  refine @BundInv.bury _ _ _ p c { c with dead := true } after.inv atEnd (by simp [atEnd]) rfl
    ⟨rfl, rfl⟩ ⟨rfl, by rw [sameId]; rfl⟩ ⟨rfl, plain⟩ ?_
  · intro l link found points
    have holds := (after.inv.slots p c atEnd alive link.bundleIndex l).mpr
      ⟨link, found, points, rfl⟩
    simp [gone link.bundleIndex (.inl (List.mem_finRange _))] at holds

theorem storeSlot_get {slots : List (Option Nat)} {p i q : Nat}
    (found : (storeSlot slots p)[i]? = some (some q)) :
    i = freeSlot slots ∧ q = p ∨ slots[i]? = some (some q) := by
  unfold storeSlot at found
  split at found
  · rw [List.getElem?_set] at found
    split at found
    case isTrue same => exact .inl ⟨same.symm, by simpa [eq_comm, same] using found⟩
    case isFalse => exact .inr found
  case isFalse grown =>
    have atEnd : freeSlot slots = slots.length :=
      Nat.le_antisymm List.findIdx_le_length (Nat.not_lt.mp grown)
    rw [List.getElem?_append] at found
    split at found
    · exact .inr found
    · left
      obtain ⟨zero, same⟩ : i - slots.length = 0 ∧ p = q := by
        simpa [List.getElem?_singleton] using found
      exact ⟨by omega, same.symm⟩

theorem some_of_update {α : Type} {table : Nat → Option α} {at_ slot : Nat} {written entry : α}
    (found : Function.update table at_ (some written) slot = some entry) :
    slot = at_ ∧ entry = written ∨ slot ≠ at_ ∧ table slot = some entry := by
  by_cases same : slot = at_
  · rw [same, Function.update_self, Option.some.injEq] at found
    exact .inl ⟨same, found.symm⟩
  · rw [Function.update_of_ne same] at found
    exact .inr ⟨same, found⟩

/-- A bundle without slots and counts may be added at the next address. -/
theorem bundInst_inv {w : BundWorld n} (inv : BundInv none w) {bt : Bundle n}
    (blank : bt.links = (fun _ => none) ∧ bt.n_links = 0 ∧ bt.n_up = 0 ∧ bt.dead = false)
    (name : Option String) (tmpl stay ngInit : Bool) :
    BundInv none (bundInst w bt name tmpl stay ngInit).2 := by
  obtain ⟨noLinks, noCount, noUp, alive⟩ := blank
  have fresh := inv.freshBund w.nextBund (Nat.le_refl _)
  unfold bundInst
  dsimp only
  split
  · constructor
    · intro q c found there _
      dsimp only at found
      rcases some_of_update found with ⟨-, rfl⟩ | ⟨-, before⟩
      · constructor <;> simp [noLinks, noCount, noUp, countSlots, slotUp]
      · exact inv.counts q c before there (by simp)
    · intro q c found there k l
      dsimp only at found
      rcases some_of_update found with ⟨rfl, rfl⟩ | ⟨-, before⟩
      · dsimp only
        constructor
        · simp [noLinks]
        · rintro ⟨link, atLink, points, _⟩
          obtain ⟨b, atBund, _⟩ := inv.known l link _ atLink points
          simp [fresh] at atBund
      · exact inv.slots q c before there k l
    · exact inv.joined
    · exact inv.template
    · intro q c found template
      dsimp only at found
      rcases some_of_update found with ⟨-, rfl⟩ | ⟨-, before⟩
      · exact ⟨noLinks, noCount, noUp, alive⟩
      · exact inv.bundTemplate q c before template
    · intro m x q found points
      obtain ⟨c, atBund, kept⟩ := inv.known m x q found points
      have old : q ≠ w.nextBund := fun h => by simp [h, fresh] at atBund
      exact ⟨c, by dsimp only; rwa [Function.update_of_ne old], kept⟩
    · intro i q found
      rcases storeSlot_get found with ⟨rfl, rfl⟩ | before
      · exact ⟨_, Function.update_self .., rfl, alive⟩
      · obtain ⟨c, atBund, kept⟩ := inv.listedBund i q before
        have old : q ≠ w.nextBund := fun h => by simp [h, fresh] at atBund
        exact ⟨c, by dsimp only; rwa [Function.update_of_ne old], kept⟩
    · exact inv.listed
    · intro q later
      dsimp only at later ⊢
      rw [Function.update_of_ne (by omega)]
      exact inv.freshBund q (by omega)
    · exact inv.freshLink
  · refine ⟨inv.counts, inv.slots, inv.joined, inv.template, inv.bundTemplate, inv.known, ?_,
      inv.listed, inv.freshBund, inv.freshLink⟩
    intro i q found
    rw [List.getElem?_set] at found
    split at found
    · split at found <;> simp at found
    case isFalse away =>
      rcases storeSlot_get found with ⟨same, _⟩ | before
      · exact absurd same.symm away
      · exact inv.listedBund i q before

/-- A link without a bundle may be added at the next address. -/
theorem linkInst_inv {skip : Option Nat} {w : BundWorld n} (inv : BundInv skip w)
    {lt : BundLink n} (free : lt.bund = none ∧ lt.joined_bund = false ∧ lt.dead = false)
    (name : Option String) (tmpl stay : Bool) :
    BundInv skip (linkInst w lt name tmpl stay).2 := by
  obtain ⟨noBund, apart, alive⟩ := free
  have fresh := inv.freshLink w.nextLink (Nat.le_refl _)
  -- no slot holds the new address
  have unseen : ∀ q c, w.bunds q = some c → c.dead = false → ∀ k,
      c.links k ≠ some w.nextLink := by
    intro q c found there k holds
    obtain ⟨x, hx, _⟩ := (inv.slots q c found there k _).mp holds
    simp [fresh] at hx
  unfold linkInst
  dsimp only
  constructor
  · intro q c found there kept
    have old := inv.counts q c found there kept
    refine ⟨old.n_links, old.n_up.trans ?_⟩
    congr 1
    funext k
    exact (slotUp_other (unseen q c found there k)).symm
  · intro q c found there k m
    rw [inv.slots q c found there k m]
    by_cases new : m = w.nextLink
    · simp [new, fresh, noBund]
    · simp only [Function.update_of_ne new]
  · intro m x found joined
    dsimp only at found
    rcases some_of_update found with ⟨-, rfl⟩ | ⟨-, before⟩
    · simp [apart] at joined
    · exact inv.joined m x before joined
  · intro m x found template
    dsimp only at found
    rcases some_of_update found with ⟨-, rfl⟩ | ⟨-, before⟩
    · exact ⟨noBund, apart⟩
    · exact inv.template m x before template
  · exact inv.bundTemplate
  · intro m x q found points
    dsimp only at found
    rcases some_of_update found with ⟨-, rfl⟩ | ⟨-, before⟩
    · simp [noBund] at points
    · exact inv.known m x q before points
  · exact inv.listedBund
  · intro i m found
    rcases storeSlot_get found with ⟨rfl, rfl⟩ | before
    · exact ⟨_, Function.update_self .., rfl, alive⟩
    · obtain ⟨x, atLink, kept⟩ := inv.listed i m before
      have old : m ≠ w.nextLink := fun h => by simp [h, fresh] at atLink
      exact ⟨x, by dsimp only; rwa [Function.update_of_ne old], kept⟩
  · exact inv.freshBund
  · intro m later
    dsimp only at later ⊢
    rw [Function.update_of_ne (by omega)]
    exact inv.freshLink m (by omega)

theorem BundInv.exempt {w : BundWorld n} (inv : BundInv none w) (p : Nat) :
    BundInv (some p) w :=
  { inv with counts := fun q b found there _ => inv.counts q b found there (by simp) }

/-- No link of a bundle whose counter is zero has joined. -/
theorem noStaticUp_of_down {w : BundWorld n} (inv : BundInv none w) {p : Nat} {b : Bundle n}
    (atBund : w.bunds p = some b) (there : b.dead = false) (down : b.n_up = 0) :
    NoStaticUp w p := by
  intro l link found points joined
  exfalso
  have holds := (inv.slots p b atBund there link.bundleIndex l).mpr ⟨link, found, points, rfl⟩
  have zero := (inv.counts p b atBund there (by simp)).n_up
  rw [down] at zero
  have empty := Finset.card_eq_zero.mp zero.symm
  have member : link.bundleIndex ∈
      Finset.univ.filter fun k => slotUp w.links (b.links k) = true :=
    Finset.mem_filter.mpr ⟨Finset.mem_univ _, by simp [slotUp, holds, found, joined]⟩
  rw [empty] at member
  simp at member

theorem find_listed {slots : List (Option Nat)} {test : Option Nat → Bool} {p : Nat}
    (found : (slots.find? test).join = some p) :
    test (some p) = true ∧ ∃ i : Nat, slots[i]? = some (some p) := by
  obtain ⟨slot, same⟩ : ∃ slot, slots.find? test = some slot ∧ slot = some p := by
    cases h : slots.find? test with
    | none => simp [h] at found
    | some slot => exact ⟨slot, rfl, by simpa [h] using found⟩
  obtain ⟨first, rfl⟩ := same
  exact ⟨List.find?_some first, List.mem_iff_getElem?.mp (List.mem_of_find?_eq_some first)⟩

/-- The bundle that is found is there and no template, and a new one is not static. -/
theorem bundJoinFind_inv {w v : BundWorld n} (inv : BundInv none w) {facts : JoinFacts}
    {found : Option Nat} (result : bundJoinFind w facts = (found, v)) :
    BundInv none v ∧ v.links = w.links ∧ ∀ p, found = some p → ∃ b, v.bunds p = some b ∧
      b.tmpl = false ∧ b.dead = false ∧ (w.bunds p = some b ∨ w.bunds p = none ∧ b.stay = false) := by
  unfold bundJoinFind at result
  split at result
  case h_1 p same =>
    cases result
    refine ⟨inv, rfl, fun _ h => ?_⟩
    cases h
    unfold bundJoinSame at same
    split at same
    · cases same
    obtain ⟨test, i, listed⟩ := find_listed same
    obtain ⟨b, atBund, _, there⟩ := inv.listedBund i p listed
    simp only [Option.bind_some, atBund, Option.any_some, Bool.and_eq_true,
      Bool.not_eq_true'] at test
    exact ⟨b, atBund, test.1.1.1, there, .inl atBund⟩
  case h_2 =>
    split at result
    · cases result; exact ⟨inv, rfl, by simp⟩
    split at result
    · cases result; exact ⟨inv, rfl, by simp⟩
    split at result
    · cases result; exact ⟨inv, rfl, by simp⟩
    case h_2 p named =>
      obtain ⟨_, i, listed⟩ := find_listed named
      obtain ⟨b, atBund, _, there⟩ := inv.listedBund i p listed
      rw [atBund] at result
      dsimp only at result
      split at result
      case isTrue template =>
        have kept := bundInst_inv inv (inv.bundTemplate p b atBund template) none false false
          facts.bundNgInit
        rw [result] at kept
        unfold bundInst at result
        simp only [Bool.false_or] at result
        split at result <;> cases result
        · refine ⟨kept, rfl, fun _ h => ?_⟩
          cases h
          exact ⟨_, Function.update_self .., rfl, there,
            .inr ⟨inv.freshBund _ (Nat.le_refl _), rfl⟩⟩
        · exact ⟨kept, rfl, by simp⟩
      case isFalse plain =>
        cases result
        refine ⟨inv, rfl, fun _ h => ?_⟩
        cases h
        exact ⟨b, atBund, Bool.eq_false_iff.mpr plain, there, .inl atBund⟩

/-- An attached link has its bundle, and the bundle is as static as it was. -/
theorem bundJoinAttach_inv (fits : n < 65536) {w v : BundWorld n} (inv : BundInv none w)
    {l : Nat} {link : BundLink n} {facts : JoinFacts} {goOn : Bool}
    (atLink : w.links l = some link) (free : link.bund = none)
    (apart : link.joined_bund = false) (plain : link.tmpl = false)
    (result : bundJoinAttach w l facts = (goOn, v)) :
    BundInv none v ∧ (goOn = true → ∃ p k b,
      v.links l = some { link with bund := some p, bundleIndex := k } ∧ v.bunds p = some b ∧
      (∀ m, m ≠ l → v.links m = w.links m) ∧
      ((∃ c, w.bunds p = some c ∧ b.stay = c.stay) ∨ w.bunds p = none ∧ b.stay = false)) := by
  unfold bundJoinAttach at result
  split at result
  case h_1 u found =>
    cases result
    exact ⟨(bundJoinFind_inv inv found).1, by simp⟩
  case h_2 p u found =>
    obtain ⟨kept, sameLinks, target⟩ := bundJoinFind_inv inv found
    obtain ⟨b, atBund, notTemplate, there, origin⟩ := target p rfl
    rw [atBund] at result
    dsimp only at result
    split at result
    · cases result; exact ⟨kept, by simp⟩
    split at result
    · cases result; exact ⟨kept, by simp⟩
    case h_2 k empty =>
      cases result
      have slot : b.links k = none := by simpa using List.find?_some empty
      refine ⟨bundAttach_inv fits kept atBund (sameLinks ▸ atLink) (by simp) notTemplate there
        plain slot free apart, fun _ => ⟨p, k,
          { b with links := Function.update b.links k (some l), n_links := b.n_links + 1 },
          ?_, ?_, ?_, ?_⟩⟩
      · simp [bundAttach, sameLinks, atLink]
      · simp [bundAttach, atBund]
      · intro m other
        simp [bundAttach, sameLinks, Function.update_of_ne other]
      · rcases origin with before | fresh
        · exact .inl ⟨b, before, rfl⟩
        · exact .inr fresh

theorem bundJoinUp_inv (fits : n < 65536) {w : BundWorld n} (inv : BundInv none w)
    {l p : Nat} {link : BundLink n} {b : Bundle n} {facts : JoinFacts}
    (atLink : w.links l = some link) (points : link.bund = some p) (atBund : w.bunds p = some b)
    (apart : link.joined_bund = false) (network : link.network = true)
    (allowed : facts.linkNgJoin = true ∨ b.stay = false ∧ NoStaticUp w p) :
    BundInv none (bundJoinUp w l p link.bundleIndex facts) := by
  obtain ⟨c, known, plain, alive⟩ := inv.known l link p atLink points
  obtain rfl : b = c := Option.some.inj (atBund.symm.trans known)
  have plainLink : link.tmpl = false := Bool.eq_false_iff.mpr fun template => by
    simp [(inv.template l link atLink template).1] at points
  unfold bundJoinUp
  dsimp only
  split
  · exact @BundInv.up _ fits _ w _ p l b
      (if b.n_up + 1 = 1 then
        { b with
          «open» := true, n_up := b.n_up + 1
          authname := facts.authname, peer_mrru := facts.peer_mrru
          peer_discrim := if facts.peer_mrru ≠ 0 then facts.peer_discrim else b.peer_discrim }
      else { b with «open» := true, n_up := b.n_up + 1 })
      link { link with joined_bund := true } inv
      ⟨atBund, atLink, by simp [atBund], by simp [atLink], rfl, rfl, .inl ⟨rfl, rfl⟩, rfl,
        ⟨plain, by split <;> exact plain, plainLink, plainLink⟩,
        ⟨by split <;> rfl, by split <;> rfl, rfl⟩, .inr points, .inr ⟨points, alive⟩⟩
      points ⟨rfl, rfl⟩ apart rfl network ⟨by split <;> rfl, by split <;> rfl, by split <;> rfl⟩
  case isFalse failed =>
    obtain ⟨notStatic, noStatic⟩ := allowed.resolve_left failed
    simp only [mapBund_bunds, mapLink_bunds, Function.update_self, atBund, Option.map_some,
      notStatic, Bool.false_eq_true, ↓reduceIte]
    refine bundShutdown_inv ⟨?_, ?_, ?_⟩
    · exact @BundInv.detach _ _ _ w _ p l b
        { b with «open» := true, links := Function.update b.links link.bundleIndex none }
        link { link with bund := none } inv
        ⟨atBund, atLink, by simp [atBund], by simp [atLink], rfl, rfl, .inl ⟨rfl, rfl⟩, rfl,
          ⟨plain, plain, plainLink, plainLink⟩, ⟨rfl, rfl, rfl⟩, .inr points, .inl rfl⟩
        points (.inr ⟨rfl, rfl⟩) rfl (by simp [apart]) rfl (by simp)
    · intro m x found there joined
      by_cases moved : m = l
      · subst moved
        obtain rfl : { link with bund := none } = x := by simpa [atLink] using found
        simp at there
      · exact noStatic m x (by simpa [Function.update_of_ne moved] using found) there joined
    · exact ⟨{ b with «open» := true, links := Function.update b.links link.bundleIndex none },
        by simp [atBund], alive, plain⟩

/-- The bundle that `LinkNgJoin` is asked to connect the link to, if `BundJoin` gets there. -/
def bundJoinTarget (w : BundWorld n) (l : Nat) (facts : JoinFacts) : Option Nat :=
  match w.links l with
  | none => none
  | some link =>
      if w.gShutdownInProgress then none
      else match link.bund with
        | some p => some p
        | none => match bundJoinAttach w l facts with
          | (true, v) => (v.links l).bind (·.bund)
          | (false, _) => none

/-- The steps that keep the accounts: a netgraph join fails only on a bundle that goes with
it and takes no static link that has joined, `BundCreateOpenLink` takes no link that has a
bundle, and a link that has joined is not shut down on its own. -/
def bundAllowed (w : BundWorld n) : BundEvent n → Prop
  | .createOpen p k busy => ∀ b lt link, w.bunds p = some b → b.links k = none → busy = false →
      linkFind w (b.conf.linkst k) = some lt → w.links lt = some link →
        link.tmpl = true ∨ link.bund = none
  | .enterNetwork l facts =>
      let v := w.mapLink l fun link => { link with network := true }
      facts.linkNgJoin = true ∨ ∀ p b, bundJoinTarget v l facts = some p → v.bunds p = some b →
        b.stay = false ∧ NoStaticUp v p
  | .linkShutdown l => ∀ link, w.links l = some link → link.joined_bund = true → link.bund = none
  | _ => True

theorem bundJoin_inv (fits : n < 65536) {w : BundWorld n} (inv : BundInv none w) {l : Nat}
    {link : BundLink n} {facts : JoinFacts} (atLink : w.links l = some link)
    (apart : link.joined_bund = false) (network : link.network = true) (plain : link.tmpl = false)
    (allowed : facts.linkNgJoin = true ∨ ∀ p b, bundJoinTarget w l facts = some p →
      w.bunds p = some b → b.stay = false ∧ NoStaticUp w p) :
    BundInv none (bundJoin w l facts) := by
  unfold bundJoinTarget at allowed
  unfold bundJoin
  simp only [atLink] at allowed ⊢
  split
  · exact inv
  case isFalse going =>
    simp only [going, Bool.false_eq_true, ↓reduceIte] at allowed
    cases points : link.bund with
    | some p =>
        obtain ⟨b, atBund, _⟩ := inv.known l link p atLink points
        simp only [↓reduceIte, atLink, points]
        refine bundJoinUp_inv fits inv atLink points atBund apart network ?_
        exact allowed.imp id fun safe => safe p b (by simp [points]) atBund
    | none =>
        dsimp only
        cases result : bundJoinAttach w l facts with
        | mk goOn v =>
            obtain ⟨kept, attached⟩ := bundJoinAttach_inv fits inv atLink points apart plain result
            cases goOn with
            | false => simpa using kept
            | true =>
                obtain ⟨p, k, b, atLink', atBund, others, origin⟩ := attached rfl
                simp only [↓reduceIte, atLink']
                refine bundJoinUp_inv fits kept atLink' rfl atBund apart network ?_
                refine allowed.imp id fun safe => ?_
                rcases origin with ⟨c, before, same⟩ | ⟨fresh, notStatic⟩
                · obtain ⟨notStatic, noStatic⟩ := safe p c (by simp [points, result, atLink']) before
                  refine ⟨same.trans notStatic, fun m x found there joined => ?_⟩
                  by_cases moved : m = l
                  · subst moved
                    rw [atLink', Option.some.injEq] at found
                    simp [← found, apart] at joined
                  · exact noStatic m x (others m moved ▸ found) there joined
                · refine ⟨notStatic, fun m x found there joined => ?_⟩
                  by_cases moved : m = l
                  · subst moved
                    rw [atLink', Option.some.injEq] at found
                    simp [← found, apart] at joined
                  · obtain ⟨c, known, _⟩ := inv.known m x p (others m moved ▸ found) there
                    simp [fresh] at known

/-- The end of `BundLeave`, when the last link that had joined is gone. -/
theorem bundLeave_last {w : BundWorld n} (inv : BundInv none w) {p : Nat} {b : Bundle n}
    (atBund : w.bunds p = some b) (there : b.dead = false) (plain : b.tmpl = false)
    (down : b.n_up = 0) (reopens : Bool) :
    BundInv none (
      let w := w.mapBund p fun b => { b with authname := "" }
      if reopens then w
      else
        let w := w.mapBund p fun b => { b with «open» := false }
        if b.stay then w else bundShutdown w p) := by
  have authless : BundInv none (w.mapBund p fun b => { b with authname := "" }) :=
    inv.mapBund p (fun _ => ⟨rfl, rfl, rfl, rfl, rfl⟩) fun _ => id
  have closed := authless.mapBund p (f := fun b => { b with «open» := false })
    (fun _ => ⟨rfl, rfl, rfl, rfl, rfl⟩) fun _ => id
  have atEnd : ((w.mapBund p fun b => { b with authname := "" }).mapBund p
      fun b => { b with «open» := false }).bunds p =
      some { b with authname := "", «open» := false } := by simp [atBund]
  dsimp only
  split
  · exact authless
  split
  · exact closed
  · exact bundShutdown_inv
      ⟨closed.exempt p, noStaticUp_of_down closed atEnd there down, _, atEnd, there, plain⟩

theorem bundLeave_inv {w : BundWorld n} (inv : BundInv none w) {l : Nat} {link : BundLink n}
    (atLink : w.links l = some link) (joined : link.joined_bund = true) :
    (bundLeave (w.mapLink l fun link => { link with network := false }) l).aborted = true ∨
      BundInv none (bundLeave (w.mapLink l fun link => { link with network := false }) l) := by
  unfold bundLeave
  simp only [mapLink_links, mapLink_bunds, Function.update_self, atLink, Option.map_some]
  cases points : link.bund with
  | none => exact .inl rfl
  | some p =>
      obtain ⟨b, atBund, plain, there⟩ := inv.known l link p atLink points
      have plainLink : link.tmpl = false := Bool.eq_false_iff.mpr fun template => by
        simp [(inv.template l link atLink template).1] at points
      simp only [atBund]
      split
      · exact .inl rfl
      right
      have left : BundInv none (((w.mapLink l fun link => { link with network := false }).mapLink l
          fun link => { link with joined_bund := false, bund := none }).mapBund p fun _ => { b with
            n_up := b.n_up - 1, links := Function.update b.links link.bundleIndex none
            n_links := b.n_links - 1 }) := by
        exact @BundInv.detach _ _ _ w _ p l b
          { b with
            n_up := b.n_up - 1, links := Function.update b.links link.bundleIndex none
            n_links := b.n_links - 1 }
          link { link with network := false, joined_bund := false, bund := none } inv
          ⟨atBund, atLink, by simp [atBund], by simp [atLink], rfl, rfl, .inl ⟨rfl, rfl⟩, rfl,
            ⟨plain, plain, plainLink, plainLink⟩, ⟨rfl, rfl, rfl⟩, .inr points, .inl rfl⟩
          points (.inl rfl) rfl (by simp) rfl (by simp [joined])
      split
      · exact left
      case isFalse down =>
        exact bundLeave_last left (b := { b with
            n_up := b.n_up - 1, links := Function.update b.links link.bundleIndex none
            n_links := b.n_links - 1 }) (by simp [atBund]) there plain (by simpa using down) _

theorem bundDestroy_inv {w : BundWorld n} (inv : BundInv none w) {p : Nat}
    (there : ∀ b, w.bunds p = some b → b.dead = false) : BundInv none (bundDestroy w p) := by
  unfold bundDestroy
  cases atBund : w.bunds p with
  | none => exact inv
  | some b =>
      have alive := there b atBund
      dsimp only
      split
      case isTrue template =>
        have plain := inv.mapBund p (f := fun b => { b with tmpl := false, stay := false })
          (fun _ => ⟨rfl, rfl, rfl, rfl, rfl⟩) (by simp)
        have atEnd : (w.mapBund p fun b => { b with tmpl := false, stay := false }).bunds p =
            some { b with tmpl := false, stay := false } := by simp [atBund]
        exact bundShutdown_inv ⟨plain.exempt p, noStaticUp_of_down plain atEnd alive
          (inv.bundTemplate p b atBund template).2.2.1, _, atEnd, alive, rfl⟩
      case isFalse notTemplate =>
        have kept := inv.mapBund p (f := fun b => { b with stay := false })
          (fun _ => ⟨rfl, rfl, rfl, rfl, rfl⟩) fun _ => id
        have atEnd : (w.mapBund p fun b => { b with stay := false }).bunds p =
            some { b with stay := false } := by simp [atBund]
        split
        · exact kept
        case isFalse down =>
          exact bundShutdown_inv ⟨kept.exempt p, noStaticUp_of_down kept atEnd alive
            (by simpa using down), _, atEnd, alive, by simpa using notTemplate⟩

theorem linkFind_listed {w : BundWorld n} {name : LinkRef} {l : Nat}
    (found : linkFind w name = some l) : ∃ i : Nat, w.gLinks[i]? = some (some l) := by
  unfold linkFind at found
  split at found
  case h_1 slot atIndex =>
    obtain ⟨i, _, here⟩ := Option.bind_eq_some_iff.mp atIndex
    exact ⟨i, found ▸ here⟩
  · exact (find_listed found).2

/-- What a search in `gLinks` gives is not dead, and free once it has no bundle. -/
theorem BundInv.listed_free {w : BundWorld n} (inv : BundInv none w) {i l : Nat}
    {link : BundLink n} (listed : w.gLinks[i]? = some (some l)) (atLink : w.links l = some link)
    (free : link.bund = none) : link.joined_bund = false ∧ link.dead = false := by
  obtain ⟨x, found, _, alive⟩ := inv.listed i l listed
  obtain rfl : link = x := Option.some.inj (atLink.symm.trans found)
  refine ⟨Bool.eq_false_iff.mpr fun joined => ?_, alive⟩
  rcases (inv.joined l link atLink joined).2 with gone | bound
  · simp [alive] at gone
  · exact bound free

theorem bundCreateOpenLink_inv (fits : n < 65536) {w : BundWorld n} (inv : BundInv none w)
    {p : Nat} {k : Fin n} {busy : Bool}
    (opened : ∀ b, w.bunds p = some b → b.tmpl = false ∧ b.dead = false)
    (allowed : ∀ b lt link, w.bunds p = some b → b.links k = none → busy = false →
      linkFind w (b.conf.linkst k) = some lt → w.links lt = some link →
        link.tmpl = true ∨ link.bund = none) :
    BundInv none (bundCreateOpenLink w p k busy) := by
  unfold bundCreateOpenLink
  cases atBund : w.bunds p with
  | none => exact inv
  | some b =>
      obtain ⟨plain, alive⟩ := opened b atBund
      dsimp only
      split
      · exact inv
      case isFalse empty =>
      have slot : b.links k = none := by simpa using empty
      split
      · exact inv
      unfold bundCreateLink
      cases found : linkFind w (b.conf.linkst k) with
      | none => exact inv
      | some lt =>
          dsimp only
          obtain ⟨i, listed⟩ := linkFind_listed found
          cases atLink : w.links lt with
          | none => exact inv
          | some link =>
              dsimp only
              cases busy with
              | true => exact inv
              | false =>
                  cases template : link.tmpl with
                  | true =>
                    simp only [Bool.false_eq_true, ↓reduceIte]
                    obtain ⟨free, _⟩ := inv.template lt link atLink template
                    obtain ⟨apart, living⟩ := inv.listed_free listed atLink free
                    have added := linkInst_inv inv ⟨free, apart, living⟩ none false false
                    exact @bundAttach_inv _ fits _ _ added p w.nextLink b
                      { link with
                        tmpl := false, stay := false, id := freeSlot w.gLinks
                        name := link.name ++ "-" ++ toString (freeSlot w.gLinks) } k
                      atBund (Function.update_self ..) (by simp) plain alive rfl slot free apart
                  | false =>
                    have free := (allowed b lt link atBund slot rfl found atLink).resolve_left
                      (by simp [template])
                    exact bundAttach_inv fits inv atBund atLink (by simp) plain alive template slot
                      free (inv.listed_free listed atLink free).1

variable [NeZero n]

/-- One allowed event aborts or keeps the accounts. -/
theorem bundEvent_inv (fits : n < 65536) {w : BundWorld n} (inv : BundInv none w)
    {event : BundEvent n} (allowed : bundAllowed w event) :
    (bundEvent w event).aborted = true ∨ BundInv none (bundEvent w event) := by
  cases event with
  | bundCreate name tmpl stay bt conf ngInit =>
      right
      simp only [bundEvent, bundCreate]
      split
      · exact inv
      cases bt with
      | none => exact bundInst_inv inv ⟨rfl, rfl, rfl, rfl⟩ _ _ _ _
      | some template =>
          dsimp only
          cases found : bundFind w template with
          | none => exact inv
          | some p =>
              dsimp only [Option.bind_some]
              cases atBund : w.bunds p with
              | none => exact inv
              | some b =>
                  dsimp only
                  split
                  case isTrue isTemplate =>
                    exact bundInst_inv inv (inv.bundTemplate p b atBund isTemplate) _ _ _ _
                  · exact inv
  | linkCreate name tmpl stay lt =>
      right
      simp only [bundEvent, linkCreate]
      split
      · exact inv
      cases lt with
      | none => exact linkInst_inv inv ⟨rfl, rfl, rfl⟩ _ _ _
      | some template =>
          dsimp only
          cases found : linkFind w template with
          | none => exact inv
          | some l =>
              obtain ⟨i, listed⟩ := linkFind_listed found
              dsimp only [Option.bind_some]
              cases atLink : w.links l with
              | none => exact inv
              | some link =>
                  dsimp only
                  split
                  case isTrue isTemplate =>
                    have free := (inv.template l link atLink isTemplate).1
                    exact linkInst_inv inv ⟨free, inv.listed_free listed atLink free⟩ _ _ _
                  · exact inv
  | linkInst i =>
      right
      simp only [bundEvent]
      cases listed : w.gLinks[i]?.join with
      | none => exact inv
      | some l =>
          rw [Option.bind_some]
          cases atLink : w.links l with
          | none => exact inv
          | some link =>
              dsimp only
              split
              case isTrue isTemplate =>
                have free := (inv.template l link atLink isTemplate).1
                exact linkInst_inv inv
                  ⟨free, inv.listed_free (Option.join_eq_some_iff.mp listed) atLink free⟩ _ _ _
              · exact inv
  | bundConf p conf =>
      exact .inr (inv.mapBund p (fun _ => ⟨rfl, rfl, rfl, rfl, rfl⟩) fun _ => id)
  | setOpen p state =>
      exact .inr (inv.mapBund p (fun _ => ⟨rfl, rfl, rfl, rfl, rfl⟩) fun _ => id)
  | createOpen p k busy =>
      right
      simp only [bundEvent]
      split
      · exact inv
      case isFalse ready =>
        refine bundCreateOpenLink_inv fits inv (fun b atBund => ?_) allowed
        simpa [atBund] using ready
  | enterNetwork l facts =>
      simp only [bundEvent]
      cases atLink : w.links l with
      | none => exact .inr inv
      | some link =>
          dsimp only
          split
          · exact .inr inv
          case isFalse plain =>
          split
          · exact .inl rfl
          case isFalse outside =>
          right
          have apart : link.joined_bund = false := Bool.eq_false_iff.mpr fun joined =>
            outside (inv.joined l link atLink joined).1
          have entered : BundInv none (w.mapLink l fun link => { link with network := true }) :=
            inv.mapLink atLink ⟨rfl, rfl, rfl, rfl⟩ rfl id (by simp [apart])
          have atLink' : (w.mapLink l fun link => { link with network := true }).links l =
              some { link with network := true } := by simp [atLink]
          exact bundJoin_inv fits entered atLink' apart rfl (by simpa using plain) allowed
  | leaveNetwork l =>
      simp only [bundEvent]
      cases atLink : w.links l with
      | none => exact .inr inv
      | some link =>
          dsimp only
          split
          · cases joined : link.joined_bund with
            | true => exact bundLeave_inv inv atLink joined
            | false =>
                right
                exact inv.mapLink atLink ⟨rfl, rfl, rfl, rfl⟩ rfl id (by simp [joined])
          · exact .inr inv
  | linkDestroy l =>
      right
      simp only [bundEvent, linkDestroy]
      cases atLink : w.links l with
      | none => exact inv
      | some link =>
          dsimp only
          split
          case isTrue template =>
            have free := inv.template l link atLink template
            refine linkShutdown_inv (inv.mapLink atLink ⟨rfl, rfl, rfl, rfl⟩ rfl (by simp)
              (by simp [free.2])) l ?_
            intro x found _
            rw [mapLink_links, Function.update_self, atLink, Option.map_some,
              Option.some.injEq] at found
            exact .inl (found ▸ free.1)
          · exact inv.mapLink atLink ⟨rfl, rfl, rfl, rfl⟩ rfl id (inv.joined l link atLink)
  | linkShutdown l =>
      exact .inr (linkShutdown_inv inv l fun link atLink joined =>
        .inl (allowed link atLink joined))
  | bundDestroy p =>
      right
      simp only [bundEvent]
      split
      · exact inv
      case isFalse there =>
        exact bundDestroy_inv inv fun b atBund => by simpa [atBund] using there
  | shutdownInProgress =>
      exact .inr ⟨inv.counts, inv.slots, inv.joined, inv.template, inv.bundTemplate, inv.known,
        inv.listedBund, inv.listed, inv.freshBund, inv.freshLink⟩

theorem bundStep_inv (fits : n < 65536) {w : BundWorld n} (inv : BundInv none w)
    {event : BundEvent n} (allowed : bundAllowed w event) : BundInv none (bundStep w event) := by
  unfold bundStep
  split
  · exact inv
  · dsimp only
    split
    · exact ⟨inv.counts, inv.slots, inv.joined, inv.template, inv.bundTemplate, inv.known,
        inv.listedBund, inv.listed, inv.freshBund, inv.freshLink⟩
    case isFalse alive => exact (bundEvent_inv fits inv allowed).resolve_left alive

omit [NeZero n] in
theorem bundStart_inv : BundInv none (bundStart n) := by
  constructor <;> simp [bundStart]

/-- In every run whose steps are allowed, the accounts are right at the end. -/
theorem bundAccounted_run (fits : n < 65536) {events : List (BundEvent n)}
    (allowed : Transition.Meets bundStep bundAllowed (bundStart n) events) :
    BundAccounted (Transition.run bundStep (bundStart n) events) := by
  have kept : ∀ (w : BundWorld n) (event : BundEvent n), BundInv none w → bundAllowed w event →
      BundInv none (bundStep w event) := fun _ _ inv allows => bundStep_inv fits inv allows
  have inv := Transition.invariant_run bundStep kept bundStart_inv allowed
  exact fun p b atBund there => ⟨inv.counts p b atBund there (by simp), inv.slots p b atBund there⟩

end

/-- A static bundle without links of its own. -/
def bareConf : BundConf 16 where
  linkst := fun _ => ⟨"", none⟩
  bwmanage := false
  ondemand := false

def joinB (linkNgJoin : Bool) : JoinFacts where
  peer_mrru := 0
  want_mrru := 0
  peer_discrim := ⟨0, 0, []⟩
  authname := ""
  action := some "B"
  matched := none
  bundNgInit := true
  linkNgJoin := linkNgJoin

/-- The static bundle `B` and the static link `L`, which enters `PHASE_NETWORK`. -/
def joinRun (linkNgJoin : Bool) : List (BundEvent 16) :=
  [.bundCreate "B" false true none bareConf true, .linkCreate ⟨"L", none⟩ false true none,
    .enterNetwork 0 (joinB linkNgJoin)]

theorem bundAccounted_joined :
    BundAccounted (Transition.run bundStep (bundStart 16) (joinRun true)) :=
  bundAccounted_run (by decide) ⟨trivial, trivial, .inl rfl, trivial⟩

/-- Not every run keeps the accounts: after a failed netgraph join the static bundle counts
a link that no slot holds. -/
theorem not_bundAccounted : ¬ ∀ events : List (BundEvent 16),
    BundAccounted (Transition.run bundStep (bundStart 16) events) := by
  intro always
  have accounted := always (joinRun false)
  have atBund : ∃ b, (Transition.run bundStep (bundStart 16) (joinRun false)).bunds 0 = some b ∧
      b.dead = false ∧ b.n_links = 1 ∧ ∀ k, b.links k = none := ⟨_, rfl, rfl, rfl, by decide⟩
  obtain ⟨b, found, there, one, empty⟩ := atBund
  have counted := (accounted 0 b found there).1.n_links
  simp [one, empty, countSlots] at counted

end Mpd.Membership
