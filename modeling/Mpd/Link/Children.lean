import Mpd.Transition
import Mathlib.Data.List.Induction
import Mathlib.Data.List.Basic
import Mathlib.Tactic.SplitIfs

/-! The counters of children: `gChildren` for all links, and `children` of each link. A link
made from another by `LinkInst` names that one as its parent until the parent goes first. -/

set_option autoImplicit false

namespace Mpd.Children

/-- A link. Whether `LinkInst` made it is no field of the source. -/
structure ChildLink where
  id : Nat
  parent : Option Nat
  children : Int
  instantiated : Bool
  deriving DecidableEq, Repr

structure ChildWorld where
  gLinks : List (Option ChildLink)
  gChildren : Int
  deriving DecidableEq, Repr

def freeLink (gLinks : List (Option ChildLink)) : Nat := gLinks.findIdx Option.isNone

/-- `LengthenArray` where it is needed, then the store. -/
def storeLink (gLinks : List (Option ChildLink)) (l : ChildLink) : List (Option ChildLink) :=
  if freeLink gLinks < gLinks.length then gLinks.set (freeLink gLinks) (some l)
  else gLinks ++ [some l]

/-- `LinkCreate` without a template. -/
def linkCreate (w : ChildWorld) : ChildWorld :=
  { w with
    gLinks := storeLink w.gLinks
      { id := freeLink w.gLinks, parent := none, children := 0, instantiated := false } }

def linkInst (w : ChildWorld) (lt : ChildLink) : ChildWorld :=
  let gLinks := w.gLinks.set lt.id (some { lt with children := lt.children + 1 })
  { gChildren := w.gChildren + 1
    gLinks := storeLink gLinks
      { lt with id := freeLink gLinks, parent := some lt.id, children := 0, instantiated := true } }

def loseChild (gLinks : List (Option ChildLink)) (p : Nat) : List (Option ChildLink) :=
  gLinks.modify p (Option.map fun l => { l with children := l.children - 1 })

/-- The children of a link that goes become orphans. -/
def orphan (gLinks : List (Option ChildLink)) (id : Nat) : List (Option ChildLink) :=
  gLinks.map (Option.map fun l => if l.parent = some id then { l with parent := none } else l)

def leaveParent (w : ChildWorld) (l : ChildLink) : ChildWorld :=
  match l.parent with
  | some p => { gChildren := w.gChildren - 1, gLinks := loseChild w.gLinks p }
  | none => w

def linkShutdown (w : ChildWorld) (l : ChildLink) : ChildWorld :=
  let w := leaveParent { w with gLinks := w.gLinks.set l.id none } l
  if l.children ≠ 0 then { w with gLinks := orphan w.gLinks l.id } else w

def ChildWorld.link (w : ChildWorld) (slot : Nat) : Option ChildLink := w.gLinks[slot]?.join

inductive ChildEvent where
  | create
  | inst (template : Nat)
  | shutdown (slot : Nat)
  deriving DecidableEq, Repr

def childStep (w : ChildWorld) : ChildEvent → ChildWorld
  | .create => linkCreate w
  | .inst template => (w.link template).elim w (linkInst w)
  | .shutdown slot => (w.link slot).elim w (linkShutdown w)

def childStart : ChildWorld := { gLinks := [], gChildren := 0 }

def childRun (events : List ChildEvent) : ChildWorld := events.foldl childStep childStart

def isChildOf (id : Nat) (slot : Option ChildLink) : Bool := slot.any (·.parent == some id)

def isInstance (slot : Option ChildLink) : Bool := slot.any (·.instantiated)

theorem countP_set {α : Type} {p : α → Bool} {slots : List α} {i : Nat} {old : α} (value : α)
    (held : slots[i]? = some old) :
    (slots.set i value).countP p + (if p old then 1 else 0) =
      slots.countP p + (if p value then 1 else 0) := by
  induction slots generalizing i with
  | nil => simp at held
  | cons head slots ih =>
      cases i with
      | zero =>
          obtain rfl : head = old := by simpa using held
          simp only [List.set_cons_zero, List.countP_cons]
          omega
      | succ i =>
          have moved := ih (by simpa using held)
          simp only [List.set_cons_succ, List.countP_cons]
          omega

theorem countP_set_same {α : Type} {p : α → Bool} {slots : List α} {i : Nat} {old value : α}
    (held : slots[i]? = some old) (same : p value = p old) :
    (slots.set i value).countP p = slots.countP p := by
  have moved := countP_set value held (p := p)
  rw [same] at moved
  omega

theorem freeLink_held {gLinks : List (Option ChildLink)} (short : freeLink gLinks < gLinks.length) :
    gLinks[freeLink gLinks]? = some none := by
  have found : (gLinks[freeLink gLinks]).isNone := List.findIdx_getElem
  rw [List.getElem?_eq_getElem short, Option.isNone_iff_eq_none.mp found]

theorem freeLink_link {gLinks : List (Option ChildLink)} : gLinks[freeLink gLinks]?.join = none := by
  by_cases short : freeLink gLinks < gLinks.length
  · rw [freeLink_held short]
    rfl
  · rw [List.getElem?_eq_none (Nat.le_of_not_lt short)]
    rfl

/-- The new link is added to whatever is counted, as its slot was empty. -/
theorem countP_storeLink {p : Option ChildLink → Bool} (empty : p none = false)
    (gLinks : List (Option ChildLink)) (l : ChildLink) :
    (storeLink gLinks l).countP p = gLinks.countP p + (if p (some l) then 1 else 0) := by
  unfold storeLink
  split
  case isTrue short =>
      have moved := countP_set (some l) (freeLink_held short) (p := p)
      simpa [empty] using moved
  case isFalse => simp [List.countP_append, List.countP_cons]

theorem storeLink_link (gLinks : List (Option ChildLink)) (l : ChildLink) (slot : Nat) :
    (storeLink gLinks l)[slot]?.join =
      if slot = freeLink gLinks then some l else gLinks[slot]?.join := by
  unfold storeLink
  split
  case isTrue short =>
      by_cases same : slot = freeLink gLinks
      · rw [same, List.getElem?_set_self short, if_pos rfl]
        rfl
      · rw [List.getElem?_set_ne (Ne.symm same), if_neg same]
  case isFalse long =>
      have free : freeLink gLinks = gLinks.length :=
        Nat.le_antisymm List.findIdx_le_length (Nat.le_of_not_lt long)
      rw [free]
      rcases Nat.lt_trichotomy slot gLinks.length with below | rfl | above
      · rw [List.getElem?_append_left below, if_neg (Nat.ne_of_lt below)]
      · simp
      · rw [List.getElem?_eq_none (by simp; omega), List.getElem?_eq_none (by omega),
          if_neg (Nat.ne_of_gt above)]

theorem countP_modify_same {α : Type} {p : α → Bool} {change : α → α}
    (same : ∀ value, p (change value) = p value) (slots : List α) (i : Nat) :
    (slots.modify i change).countP p = slots.countP p := by
  induction slots generalizing i with
  | nil => simp
  | cons head slots ih =>
      cases i with
      | zero => simp [List.countP_cons, same]
      | succ i => simp [List.countP_cons, ih]

theorem set_link {gLinks : List (Option ChildLink)} {i : Nat} {old : Option ChildLink}
    (held : gLinks[i]? = some old) (value : Option ChildLink) (slot : Nat) :
    (gLinks.set i value)[slot]?.join = if slot = i then value else gLinks[slot]?.join := by
  have inside : i < gLinks.length := (List.getElem?_eq_some_iff.mp held).1
  by_cases same : slot = i
  · rw [same, List.getElem?_set_self inside, if_pos rfl]
    rfl
  · rw [List.getElem?_set_ne (Ne.symm same), if_neg same]

theorem loseChild_link (gLinks : List (Option ChildLink)) (p slot : Nat) :
    (loseChild gLinks p)[slot]?.join =
      gLinks[slot]?.join.map fun l =>
        { l with children := l.children - if p = slot then 1 else 0 } := by
  rw [loseChild, List.getElem?_modify]
  cases gLinks[slot]? with
  | none => rfl
  | some held =>
      by_cases same : p = slot
      · cases held <;> simp [same]
      · cases held <;> simp [same]

theorem orphan_link (gLinks : List (Option ChildLink)) (id slot : Nat) :
    (orphan gLinks id)[slot]?.join =
      gLinks[slot]?.join.map fun l => if l.parent = some id then { l with parent := none } else l := by
  rw [orphan, List.getElem?_map]
  cases gLinks[slot]? <;> rfl

theorem ChildWorld.link_iff {w : ChildWorld} {slot : Nat} {l : ChildLink} :
    w.link slot = some l ↔ w.gLinks[slot]? = some (some l) := by
  rw [ChildWorld.link, Option.join_eq_some_iff]

theorem ChildWorld.link_of_mem {w : ChildWorld} {l : ChildLink} (member : some l ∈ w.gLinks) :
    ∃ slot, w.link slot = some l := by
  obtain ⟨slot, held⟩ := List.mem_iff_getElem?.mp member
  exact ⟨slot, ChildWorld.link_iff.mpr held⟩

/-- The counters are right, but that `gChildren` still has the orphans which went. -/
structure ChildInv (w : ChildWorld) (lost : Nat) : Prop where
  id : ∀ slot l, w.link slot = some l → l.id = slot
  children : ∀ slot l, w.link slot = some l → l.children = w.gLinks.countP (isChildOf slot)
  parent : ∀ slot l p, w.link slot = some l → l.parent = some p →
    p ≠ slot ∧ ∃ parent, w.link p = some parent
  instantiated : ∀ slot l, w.link slot = some l → l.parent ≠ none → l.instantiated = true
  total : w.gChildren = w.gLinks.countP isInstance + lost

/-- A free slot has no children left over from an earlier link. -/
theorem ChildInv.no_children {w : ChildWorld} {lost : Nat} (inv : ChildInv w lost) {slot : Nat}
    (free : w.link slot = none) : w.gLinks.countP (isChildOf slot) = 0 := by
  rw [List.countP_eq_zero]
  intro held member child
  cases held with
  | none => simp [isChildOf] at child
  | some l =>
      obtain ⟨at_slot, live⟩ := ChildWorld.link_of_mem member
      obtain ⟨-, parent, lives⟩ := inv.parent at_slot l slot live (by simpa [isChildOf] using child)
      exact absurd (free.symm.trans lives) nofun

theorem ChildInv.linkCreate {w : ChildWorld} {lost : Nat} (inv : ChildInv w lost) :
    ChildInv (linkCreate w) lost := by
  have free : w.link (freeLink w.gLinks) = none := freeLink_link
  have links : ∀ slot, (Children.linkCreate w).link slot = if slot = freeLink w.gLinks then
      some { id := freeLink w.gLinks, parent := none, children := 0, instantiated := false }
      else w.link slot := fun slot => storeLink_link _ _ slot
  have counts : ∀ slot, (Children.linkCreate w).gLinks.countP (isChildOf slot) =
      w.gLinks.countP (isChildOf slot) := by
    intro slot
    rw [Children.linkCreate, countP_storeLink rfl]
    simp [isChildOf]
  constructor
  case id =>
      intro slot l live
      rw [links] at live
      split_ifs at live with new
      · cases live
        exact new.symm
      · exact inv.id slot l live
  case children =>
      intro slot l live
      rw [counts]
      rw [links] at live
      split_ifs at live with new
      · cases live
        rw [new, inv.no_children free]
        rfl
      · exact inv.children slot l live
  case parent =>
      intro slot l p live named
      rw [links] at live
      split_ifs at live with new
      · cases live
        exact absurd named nofun
      · obtain ⟨differ, parent, lives⟩ := inv.parent slot l p live named
        refine ⟨differ, parent, ?_⟩
        rw [links, if_neg, lives]
        rintro rfl
        exact absurd (free.symm.trans lives) nofun
  case instantiated =>
      intro slot l live named
      rw [links] at live
      split_ifs at live with new
      · cases live
        exact absurd rfl named
      · exact inv.instantiated slot l live named
  case total =>
      rw [Children.linkCreate, countP_storeLink rfl]
      simpa [isInstance] using inv.total

theorem ChildInv.linkInst {w : ChildWorld} {lost slot : Nat} {lt : ChildLink}
    (inv : ChildInv w lost) (live : w.link slot = some lt) : ChildInv (linkInst w lt) lost := by
  have lt_id := inv.id slot lt live
  have held := ChildWorld.link_iff.mp live
  let gLinks := w.gLinks.set slot (some { lt with children := lt.children + 1 })
  let k := freeLink gLinks
  have counted : ∀ at_slot, gLinks[at_slot]?.join =
      if at_slot = slot then some { lt with children := lt.children + 1 } else w.link at_slot :=
    set_link held _
  have free : gLinks[k]?.join = none := freeLink_link
  rw [counted] at free
  obtain ⟨k_ne, free⟩ : k ≠ slot ∧ w.link k = none := by
    split_ifs at free with same
    exact ⟨same, free⟩
  let l : ChildLink := { lt with
    id := k, parent := some slot, children := 0, instantiated := true }
  have inst_eq : Children.linkInst w lt =
      { gChildren := w.gChildren + 1, gLinks := storeLink gLinks l } := by
    simp only [Children.linkInst, lt_id, gLinks, l, k]
  have links : ∀ at_slot, (Children.linkInst w lt).link at_slot =
      if at_slot = k then some l
      else if at_slot = slot then some { lt with children := lt.children + 1 }
      else w.link at_slot := by
    intro at_slot
    rw [inst_eq, ChildWorld.link, storeLink_link, counted]
  have counts : ∀ parent, (Children.linkInst w lt).gLinks.countP (isChildOf parent) =
      w.gLinks.countP (isChildOf parent) + if slot = parent then 1 else 0 := by
    intro parent
    have same : gLinks.countP (isChildOf parent) = w.gLinks.countP (isChildOf parent) :=
      countP_set_same held rfl
    rw [inst_eq, countP_storeLink rfl, same]
    simp [isChildOf, l]
  constructor
  case id =>
      intro at_slot held_link found
      rw [links] at found
      split_ifs at found with new same
      · cases found
        exact new.symm
      · cases found
        exact lt_id.trans same.symm
      · exact inv.id at_slot held_link found
  case children =>
      intro at_slot held_link found
      rw [counts]
      rw [links] at found
      split_ifs at found with new same
      · cases found
        rw [new, inv.no_children free, if_neg k_ne.symm]
        rfl
      · cases found
        rw [same, if_pos rfl]
        have before := inv.children slot lt live
        push_cast
        omega
      · rw [if_neg (Ne.symm same)]
        exact inv.children at_slot held_link found
  case parent =>
      intro at_slot held_link p found named
      have lives : ∀ parent, (∃ l, w.link parent = some l) →
          ∃ l, (Children.linkInst w lt).link parent = some l := by
        rintro parent ⟨l, lives⟩
        rw [links]
        split_ifs
        · exact ⟨_, rfl⟩
        · exact ⟨_, rfl⟩
        · exact ⟨_, lives⟩
      rw [links] at found
      split_ifs at found with new same
      · cases found
        obtain rfl : slot = p := by simpa [l] using named
        exact ⟨by rw [new]; exact k_ne.symm, lives slot ⟨lt, live⟩⟩
      · cases found
        obtain ⟨differ, parent⟩ := inv.parent slot lt p live named
        exact ⟨by rw [same]; exact differ, lives p parent⟩
      · obtain ⟨differ, parent⟩ := inv.parent at_slot held_link p found named
        exact ⟨differ, lives p parent⟩
  case instantiated =>
      intro at_slot held_link found named
      rw [links] at found
      split_ifs at found with new same
      · cases found
        rfl
      · cases found
        exact inv.instantiated slot lt live named
      · exact inv.instantiated at_slot held_link found named
  case total =>
      rw [inst_eq]
      dsimp only
      have same : gLinks.countP isInstance = w.gLinks.countP isInstance :=
        countP_set_same held rfl
      rw [countP_storeLink rfl, same]
      have before := inv.total
      simp [isInstance, l] at before ⊢
      omega

def afterShutdown (gone : ChildLink) (slot : Nat) (l : ChildLink) : ChildLink :=
  { l with
    children := l.children - if gone.parent = some slot then 1 else 0
    parent := if l.parent = some gone.id then none else l.parent }

theorem leaveParent_link (w : ChildWorld) (l : ChildLink) (slot : Nat) :
    (leaveParent w l).link slot = (w.link slot).map fun other =>
      { other with children := other.children - if l.parent = some slot then 1 else 0 } := by
  unfold leaveParent
  split
  case h_1 p named => simp [ChildWorld.link, loseChild_link, named]
  case h_2 orphaned => simp [orphaned]

theorem leaveParent_countP {p : Option ChildLink → Bool} (w : ChildWorld) (l : ChildLink)
    (same : ∀ held (children : ChildLink → Int),
      p (held.map fun l : ChildLink => { l with children := children l }) = p held) :
    (leaveParent w l).gLinks.countP p = w.gLinks.countP p := by
  unfold leaveParent
  split
  · exact countP_modify_same (fun held => same held _) _ _
  · rfl

theorem ChildInv.childless {w : ChildWorld} {lost slot : Nat} {l : ChildLink}
    (inv : ChildInv w lost) (live : w.link slot = some l) (none_left : l.children = 0) :
    ∀ held ∈ w.gLinks, isChildOf slot held = false := by
  have counted := inv.children slot l live
  have zero : w.gLinks.countP (isChildOf slot) = 0 := by omega
  rw [List.countP_eq_zero] at zero
  intro held member
  simpa using zero held member

theorem linkShutdown_link {w : ChildWorld} {lost slot : Nat} {l : ChildLink}
    (inv : ChildInv w lost) (live : w.link slot = some l) (at_slot : Nat) :
    (linkShutdown w l).link at_slot =
      if at_slot = slot then none else (w.link at_slot).map (afterShutdown l at_slot) := by
  have l_id := inv.id slot l live
  subst l_id
  have dropped : ({ w with gLinks := w.gLinks.set l.id none } : ChildWorld).link at_slot =
      if at_slot = l.id then none else w.link at_slot :=
    set_link (ChildWorld.link_iff.mp live) none at_slot
  have left := leaveParent_link { w with gLinks := w.gLinks.set l.id none } l at_slot
  rw [dropped] at left
  by_cases same : at_slot = l.id
  · rw [if_pos same] at left ⊢
    by_cases none_left : l.children = 0
    · rw [linkShutdown, if_neg (by simpa using none_left), left]
      rfl
    · have orphaned := orphan_link
        (leaveParent { w with gLinks := w.gLinks.set l.id none } l).gLinks l.id at_slot
      rw [linkShutdown, if_pos none_left, ChildWorld.link, orphaned, ← ChildWorld.link, left]
      rfl
  · rw [if_neg same] at left ⊢
    by_cases none_left : l.children = 0
    · rw [linkShutdown, if_neg (by simpa using none_left), left]
      cases found : w.link at_slot with
      | none => rfl
      | some other =>
          have stranger := inv.childless live none_left (some other)
            (List.mem_of_getElem? (ChildWorld.link_iff.mp found))
          have no_child : other.parent ≠ some l.id := by simpa [isChildOf] using stranger
          simp [afterShutdown, no_child]
    · have orphaned := orphan_link
        (leaveParent { w with gLinks := w.gLinks.set l.id none } l).gLinks l.id at_slot
      rw [linkShutdown, if_pos none_left, ChildWorld.link, orphaned, ← ChildWorld.link, left]
      cases found : w.link at_slot with
      | none => rfl
      | some other =>
          by_cases named : other.parent = some l.id <;> simp [afterShutdown, named]

theorem orphan_countP_isInstance (gLinks : List (Option ChildLink)) (id : Nat) :
    (orphan gLinks id).countP isInstance = gLinks.countP isInstance := by
  rw [orphan, List.countP_map]
  apply List.countP_congr
  intro held _
  cases held with
  | none => rfl
  | some l => by_cases named : l.parent = some id <;> simp [isInstance, named]

theorem orphan_countP_isChildOf (gLinks : List (Option ChildLink)) {id parent : Nat}
    (differ : parent ≠ id) :
    (orphan gLinks id).countP (isChildOf parent) = gLinks.countP (isChildOf parent) := by
  rw [orphan, List.countP_map]
  apply List.countP_congr
  intro held _
  cases held with
  | none => rfl
  | some l =>
      by_cases named : l.parent = some id
      · simp [isChildOf, named, differ.symm]
      · simp [isChildOf, named]

theorem linkShutdown_instances {w : ChildWorld} {lost slot : Nat} {l : ChildLink}
    (inv : ChildInv w lost) (live : w.link slot = some l) :
    (linkShutdown w l).gLinks.countP isInstance + (if l.instantiated then 1 else 0) =
      w.gLinks.countP isInstance := by
  have l_id := inv.id slot l live
  subst l_id
  have dropped := countP_set none (ChildWorld.link_iff.mp live) (p := isInstance)
  have left := leaveParent_countP (p := isInstance)
    { w with gLinks := w.gLinks.set l.id none } l (by rintro (_ | _) _ <;> rfl)
  have kept : (linkShutdown w l).gLinks.countP isInstance =
      (w.gLinks.set l.id none).countP isInstance := by
    unfold linkShutdown
    dsimp only
    split
    · rw [orphan_countP_isInstance, left]
    · exact left
  rw [kept]
  cases inst : l.instantiated <;> simp [isInstance, inst] at dropped ⊢ <;> omega

theorem linkShutdown_children {w : ChildWorld} {lost slot parent : Nat} {l : ChildLink}
    (inv : ChildInv w lost) (live : w.link slot = some l) (differ : parent ≠ slot) :
    (linkShutdown w l).gLinks.countP (isChildOf parent) + (if l.parent = some parent then 1 else 0) =
      w.gLinks.countP (isChildOf parent) := by
  have l_id := inv.id slot l live
  subst l_id
  have dropped := countP_set none (ChildWorld.link_iff.mp live) (p := isChildOf parent)
  have left := leaveParent_countP (p := isChildOf parent)
    { w with gLinks := w.gLinks.set l.id none } l (by rintro (_ | _) _ <;> rfl)
  have kept : (linkShutdown w l).gLinks.countP (isChildOf parent) =
      (w.gLinks.set l.id none).countP (isChildOf parent) := by
    unfold linkShutdown
    dsimp only
    split
    · rw [orphan_countP_isChildOf _ differ, left]
    · exact left
  simpa [kept, isChildOf] using dropped

theorem linkShutdown_gChildren (w : ChildWorld) (l : ChildLink) :
    (linkShutdown w l).gChildren = w.gChildren - if l.parent = none then 0 else 1 := by
  unfold linkShutdown leaveParent
  cases l.parent <;> dsimp only <;> split <;> simp

/-- The link that goes was made by `LinkInst`, and its parent went before it. -/
def isOrphan (l : ChildLink) : Bool := l.instantiated && l.parent.isNone

theorem ChildInv.linkShutdown {w : ChildWorld} {lost slot : Nat} {l : ChildLink}
    (inv : ChildInv w lost) (live : w.link slot = some l) :
    ChildInv (linkShutdown w l) (lost + if isOrphan l then 1 else 0) := by
  have links := linkShutdown_link inv live
  have l_id := inv.id slot l live
  have before : ∀ at_slot after, (Children.linkShutdown w l).link at_slot = some after →
      at_slot ≠ slot ∧ ∃ other, w.link at_slot = some other ∧
        after = afterShutdown l at_slot other := by
    intro at_slot after found
    rw [links] at found
    split_ifs at found with same
    obtain ⟨other, held, eq⟩ := Option.map_eq_some_iff.mp found
    exact ⟨same, other, held, eq.symm⟩
  constructor
  case id =>
      intro at_slot after found
      obtain ⟨-, other, held, rfl⟩ := before at_slot after found
      exact inv.id at_slot other held
  case children =>
      intro at_slot after found
      obtain ⟨differ, other, held, rfl⟩ := before at_slot after found
      have counted := linkShutdown_children inv live differ
      have children := inv.children at_slot other held
      simp only [afterShutdown]
      split_ifs at counted ⊢ <;> omega
  case parent =>
      intro at_slot after p found named
      obtain ⟨-, other, held, rfl⟩ := before at_slot after found
      have kept : other.parent ≠ some l.id ∧ other.parent = some p := by
        simp only [afterShutdown] at named
        split_ifs at named with gone
        exact ⟨gone, named⟩
      obtain ⟨differ, parent, lives⟩ := inv.parent at_slot other p held kept.2
      refine ⟨differ, afterShutdown l p parent, ?_⟩
      have stays : p ≠ slot := by
        rintro rfl
        exact kept.1 (l_id ▸ kept.2)
      rw [links, if_neg stays, lives]
      rfl
  case instantiated =>
      intro at_slot after found named
      obtain ⟨-, other, held, rfl⟩ := before at_slot after found
      apply inv.instantiated at_slot other held
      intro orphaned
      simp [afterShutdown, orphaned] at named
  case total =>
      have counted := linkShutdown_instances inv live
      have total := inv.total
      have made := inv.instantiated slot l live
      rw [linkShutdown_gChildren]
      cases parent : l.parent with
      | none => cases inst : l.instantiated <;> simp [isOrphan, parent, inst] at counted ⊢ <;> omega
      | some p =>
          have inst := made (by simp [parent])
          simp [isOrphan, parent, inst] at counted ⊢
          omega

/-- The event takes down a link that outlived its parent. -/
def LosesOrphan (w : ChildWorld) : ChildEvent → Prop
  | .shutdown slot => ∃ l, w.link slot = some l ∧ isOrphan l = true
  | _ => False

theorem childStep_inv {w : ChildWorld} {lost : Nat} (inv : ChildInv w lost) (event : ChildEvent) :
    ∃ more, ChildInv (childStep w event) (lost + more) ∧ (more = 0 ↔ ¬ LosesOrphan w event) := by
  cases event with
  | create => exact ⟨0, inv.linkCreate, by simp [LosesOrphan]⟩
  | inst template =>
      refine ⟨0, ?_, by simp [LosesOrphan]⟩
      cases found : w.link template with
      | none => simpa [childStep, found] using inv
      | some lt => simpa [childStep, found] using inv.linkInst found
  | shutdown slot =>
      cases found : w.link slot with
      | none => exact ⟨0, by simpa [childStep, found] using inv, by simp [LosesOrphan, found]⟩
      | some l =>
          refine ⟨_, by simpa [childStep, found] using inv.linkShutdown found, ?_⟩
          simp [LosesOrphan, found]

/-- No link that outlived its parent is taken down during the run. -/
def KeepsOrphans (events : List ChildEvent) : Prop :=
  ∀ before event after, events = before ++ event :: after → ¬ LosesOrphan (childRun before) event

theorem childRun_concat (events : List ChildEvent) (event : ChildEvent) :
    childRun (events ++ [event]) = childStep (childRun events) event := by
  simp [childRun]

theorem keepsOrphans_concat (events : List ChildEvent) (event : ChildEvent) :
    KeepsOrphans (events ++ [event]) ↔
      KeepsOrphans events ∧ ¬ LosesOrphan (childRun events) event :=
  Transition.forall_split_concat

theorem childRun_inv (events : List ChildEvent) :
    ∃ lost, ChildInv (childRun events) lost ∧ (lost = 0 ↔ KeepsOrphans events) := by
  induction events using List.reverseRecOn with
  | nil =>
      refine ⟨0, ⟨?_, ?_, ?_, ?_, rfl⟩, by simp [KeepsOrphans]⟩ <;>
        simp [childRun, childStart, ChildWorld.link]
  | append_singleton events event ih =>
      obtain ⟨lost, inv, none_lost⟩ := ih
      obtain ⟨more, kept, none_more⟩ := childStep_inv inv event
      rw [childRun_concat, keepsOrphans_concat, ← none_lost, ← none_more]
      exact ⟨lost + more, kept, by omega⟩

/-- Both kinds of counters tell the truth. -/
structure Accounted (w : ChildWorld) : Prop where
  total : w.gChildren = w.gLinks.countP isInstance
  each : ∀ slot l, w.link slot = some l → l.children = w.gLinks.countP (isChildOf slot)

/-- Each link's count of children is right in every run, and the links they name as their
parents are there. -/
theorem children_counted (events : List ChildEvent) (slot : Nat) (l : ChildLink)
    (live : (childRun events).link slot = some l) :
    l.children = (childRun events).gLinks.countP (isChildOf slot) ∧
      ∀ p, l.parent = some p → ∃ parent, (childRun events).link p = some parent := by
  obtain ⟨lost, inv, -⟩ := childRun_inv events
  exact ⟨inv.children slot l live, fun p named => (inv.parent slot l p live named).2⟩

/-- The counters are right after a run exactly if it took down no orphan: that link is not
subtracted from `gChildren`, neither when its parent goes nor when it goes itself. -/
theorem accounted_iff (events : List ChildEvent) :
    Accounted (childRun events) ↔ KeepsOrphans events := by
  obtain ⟨lost, inv, none_lost⟩ := childRun_inv events
  rw [← none_lost]
  constructor
  · intro accounted
    have total := accounted.total
    rw [inv.total] at total
    omega
  · rintro rfl
    exact ⟨by simpa using inv.total, inv.children⟩

/-- A template goes before its instance does: one child remains in the count for ever. -/
theorem orphan_not_subtracted :
    ¬ Accounted (childRun [.create, .inst 0, .shutdown 0, .shutdown 1]) := by
  rintro ⟨total, -⟩
  exact absurd total (by decide)

end Mpd.Children
