import Mathlib.Data.List.Pairwise
import Mathlib.Data.List.Perm.Basic

/-! Lists of items no two of which an equality of keys identifies. Up to their order they are
the finite maps from the keys to the items. -/

set_option autoImplicit false

namespace Mpd.Keyed

variable {Item : Type}

structure Equality (equal : Item → Item → Bool) : Prop where
  refl : ∀ x, equal x x = true
  symm : ∀ {x y}, equal x y = true → equal y x = true
  trans : ∀ {x y z}, equal x y = true → equal y z = true → equal x z = true

def Distinct (equal : Item → Item → Bool) (items : List Item) : Prop :=
  items.Pairwise fun x y => equal x y = false

/-- The items without the one of the same key. -/
def erase (equal : Item → Item → Bool) (x : Item) (items : List Item) : List Item :=
  items.filter fun y => !equal x y

def put (equal : Item → Item → Bool) (x : Item) (items : List Item) : List Item :=
  x :: erase equal x items

variable {equal : Item → Item → Bool} (keys : Equality equal)
include keys

theorem Equality.comm (x y : Item) : equal x y = equal y x := by
  rw [Bool.eq_iff_iff]
  exact ⟨keys.symm, keys.symm⟩

theorem Equality.congr_left {x y : Item} (same : equal x y = true) (z : Item) :
    equal x z = equal y z := by
  rw [Bool.eq_iff_iff]
  exact ⟨keys.trans (keys.symm same), keys.trans same⟩

theorem Distinct.perm {items items' : List Item} (distinct : Distinct equal items)
    (same : items.Perm items') : Distinct equal items' := by
  refine (same.pairwise_iff ?_).mp distinct
  intro x y differ
  rw [keys.comm]
  exact differ

omit keys in
/-- A list without an item of the key, at its end. -/
theorem find?_append_of_absent {x : Item} {found absent : List Item}
    (none : ∀ y ∈ absent, equal x y = false) :
    (found ++ absent).find? (equal x) = found.find? (equal x) := by
  have nothing : absent.find? (equal x) = .none :=
    List.find?_eq_none.mpr fun y member => by simp [none y member]
  rw [List.find?_append, nothing, Option.or_none]

/-- The item of the key comes out together with a list that does not have it. -/
theorem Distinct.perm_cons_erase {items : List Item} (distinct : Distinct equal items)
    {x old : Item} (found : items.find? (equal x) = some old) :
    items.Perm (old :: erase equal x items) := by
  induction items with
  | nil => simp at found
  | cons y items ih =>
      obtain ⟨differ, rest⟩ := List.pairwise_cons.mp distinct
      unfold erase
      cases same : equal x y with
      | true =>
          rw [List.find?_cons_of_pos same] at found
          obtain rfl := Option.some.inj found
          have others : items.filter (fun z => !equal x z) = items := by
            refine List.filter_eq_self.mpr fun z member => ?_
            rw [keys.congr_left same, differ z member]
            rfl
          rw [List.filter_cons_of_neg (by simp [same]), others]
      | false =>
          rw [List.find?_cons_of_neg (by simp [same])] at found
          rw [List.filter_cons_of_pos (by simp [same])]
          exact ((ih rest found).cons y).trans (List.Perm.swap ..)

omit keys in
theorem erase_of_absent {x : Item} {items : List Item}
    (absent : items.find? (equal x) = none) : erase equal x items = items := by
  refine List.filter_eq_self.mpr fun y member => ?_
  simpa using List.find?_eq_none.mp absent y member

omit keys in
theorem Distinct.erase {items : List Item} (distinct : Distinct equal items) (x : Item) :
    Distinct equal (erase equal x items) :=
  List.Pairwise.filter _ distinct

omit keys in
theorem mem_erase {x y : Item} {items : List Item} :
    y ∈ erase equal x items ↔ y ∈ items ∧ equal x y = false := by
  simp [erase]

omit keys in
theorem Distinct.put {items : List Item} (distinct : Distinct equal items) (x : Item) :
    Distinct equal (put equal x items) :=
  List.pairwise_cons.mpr ⟨fun _ member => (mem_erase.mp member).2, distinct.erase x⟩

/-- The map from the keys that the items stand for, where an item stands for its key. -/
def lookup (equal : Item → Item → Bool) (items : List Item) : Item → Option Item :=
  fun x => items.find? (equal x)

theorem lookup_erase (x : Item) (items : List Item) :
    lookup equal (erase equal x items) =
      fun y => if equal y x then none else lookup equal items y := by
  funext y
  unfold lookup
  split_ifs with same
  · refine List.find?_eq_none.mpr fun z member => ?_
    rw [keys.congr_left same, (mem_erase.mp member).2]
    decide
  · rw [erase, List.find?_filter]
    congr 1
    funext z
    cases other : equal y z with
    | false => simp
    | true =>
        have differ : equal x z = false := by
          rw [Bool.eq_false_iff]
          exact fun samez => same (keys.trans other (keys.symm samez))
        simp [differ]

theorem lookup_put (x : Item) (items : List Item) :
    lookup equal (put equal x items) =
      fun y => if equal y x then some x else lookup equal items y := by
  funext y
  have erased := congrFun (lookup_erase keys x items) y
  unfold lookup put at *
  split_ifs with same
  · rw [List.find?_cons_of_pos same]
  · rw [List.find?_cons_of_neg same, erased, if_neg same]

/-- What a lookup finds does not depend on the order of the items. -/
theorem Distinct.find?_perm {items items' : List Item} (distinct : Distinct equal items)
    (same : items.Perm items') (x : Item) : items.find? (equal x) = items'.find? (equal x) := by
  cases found : items.find? (equal x) with
  | none =>
      refine (List.find?_eq_none.mpr fun y member => ?_).symm
      exact List.find?_eq_none.mp found y (same.mem_iff.mpr member)
  | some old =>
      have member := List.mem_of_find?_eq_some found
      cases found' : items'.find? (equal x) with
      | none =>
          have absent := List.find?_eq_none.mp found' old (same.mem_iff.mp member)
          exact absurd (List.find?_some found) absent
      | some old' =>
          by_contra differ
          have member' := same.mem_iff.mpr (List.mem_of_find?_eq_some found')
          have alike : equal old old' = true :=
            keys.trans (keys.symm (List.find?_some found)) (List.find?_some found')
          have symmetric : Std.Symm fun x y => equal x y = false :=
            ⟨fun x y apart => (keys.comm y x).trans apart⟩
          have apart : equal old old' = false :=
            distinct.forall member member' fun eq => differ (by rw [eq])
          rw [alike] at apart
          cases apart

end Mpd.Keyed
