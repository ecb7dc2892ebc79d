import Mpd.KeyedList
import Mathlib.Data.List.GetD

/-! The hash table of libpdel, `ghash.c`, which holds the L2TP tunnels and sessions and the
users of the console: over all runs it is a finite map from keys to items. -/

set_option autoImplicit false

namespace Mpd

def ghashMinBuckets : UInt32 := 31
def ghashDefaultMaxLoad : UInt32 := 75
def ghashMinLoadFactor : UInt32 := 20

structure GHashKeys (Item : Type) where
  hash : Item → UInt32
  equal : Item → Item → Bool

inductive GHashCall (Item : Type) where
  | add (item : Item)
  | del (item : Item)
  deriving DecidableEq, Repr

/-- `struct ghash`, less the memory types and the iterators, with the record of its calls. An
item is a pointer. -/
structure GHash (Item : Type) where
  maxload : UInt32
  mods : UInt32
  size : UInt32
  maxsize : UInt32
  minsize : UInt32
  nbuckets : UInt32
  buckets : List (List Item)
  locked : Bool
  calls : List (GHashCall Item)

variable {Item : Type}

namespace GHash

def updateSizes (g : GHash Item) : GHash Item :=
  let maxsize := g.nbuckets * g.maxload / 100
  { g with
    maxsize := if maxsize = 0 then 1 else maxsize
    minsize := g.nbuckets / ghashMinLoadFactor }

def slot (K : GHashKeys Item) (nbuckets : UInt32) (item : Item) : Nat :=
  (K.hash item % nbuckets).toNat

def bucket (g : GHash Item) (i : Nat) : List Item := g.buckets.getD i []

def contents (g : GHash Item) : List Item := g.buckets.flatten

end GHash

def ghashCreate (isize maxload : UInt32) : GHash Item :=
  let isize := if isize < ghashMinBuckets then ghashMinBuckets else isize
  let maxload := if maxload = 0 then ghashDefaultMaxLoad else maxload
  GHash.updateSizes {
    maxload
    mods := 0
    size := 0
    maxsize := 0
    minsize := 0
    nbuckets := isize
    buckets := List.replicate isize.toNat []
    locked := false
    calls := [] }

/-- `ghash_rehash`: `none` where its assertion fails. The table stays as it is where there is
no memory for the new buckets. -/
def ghashRehash (K : GHashKeys Item) (newNbuckets : UInt32) (memory : Bool) (g : GHash Item) :
    Option (GHash Item) :=
  if newNbuckets = 0 then none
  else if memory then
    let move (buckets : List (List Item)) (item : Item) : List (List Item) :=
      let i := GHash.slot K newNbuckets item
      buckets.set i (item :: buckets.getD i [])
    some (GHash.updateSizes { g with
      nbuckets := newNbuckets
      buckets := g.buckets.foldl (fun buckets bucket => bucket.foldl move buckets)
        (List.replicate newNbuckets.toNat []) })
  else some g

def ghashGet [DecidableEq Item] (K : GHashKeys Item) (g : GHash Item) : Option Item → Option Item
  | none => none
  | some item =>
      (g.bucket (GHash.slot K g.nbuckets item)).find? fun other =>
        item == other || K.equal item other

abbrev GHashResult (Item : Type) := Int × GHash Item

def replaceFirst (K : GHashKeys Item) (item : Item) : List Item → List Item
  | [] => []
  | other :: bucket =>
      if K.equal item other then item :: bucket else other :: replaceFirst K item bucket

/-- The bucket without the first item of the key. -/
def removeFirst (K : GHashKeys Item) (item : Item) : List Item → List Item
  | [] => []
  | other :: bucket =>
      if K.equal item other then bucket else other :: removeFirst K item bucket

/-- The part of `ghash_put` that expands the table if necessary. -/
def ghashExpand (K : GHashKeys Item) (bucketMemory : Bool) (g : GHash Item) :
    Option (GHash Item) :=
  if g.size + 1 > g.maxsize then ghashRehash K (g.nbuckets * 2 - 1) bucketMemory g else some g

/-- The part of `ghash_put` that adds a new item. -/
def ghashAddEntry (K : GHashKeys Item) (item : Item) (entryMemory : Bool) (g : GHash Item) :
    GHashResult Item :=
  let g := { g with mods := g.mods + 1 }
  if entryMemory then
    let i := GHash.slot K g.nbuckets item
    (0, { g with
      buckets := g.buckets.set i (item :: g.bucket i)
      size := g.size + 1
      calls := g.calls ++ [.add item] })
  else (-1, g)

/-- `ghash_put`, where there is memory for a new bucket array and for an entry or not. -/
def ghashPut (K : GHashKeys Item) (item : Option Item) (bucketMemory entryMemory : Bool)
    (g : GHash Item) : Option (GHashResult Item) :=
  match item with
  | none => some (-1, g)
  | some item =>
      if g.locked then some (-1, g)
      else
        let i := GHash.slot K g.nbuckets item
        match (g.bucket i).find? (K.equal item) with
        | some old =>
            some (1, { g with
              buckets := g.buckets.set i (replaceFirst K item (g.bucket i))
              mods := g.mods + 1
              calls := g.calls ++ [.del old, .add item] })
        | none => (ghashExpand K bucketMemory g).map (ghashAddEntry K item entryMemory)

/-- The part of `ghash_remove` that shrinks the table if desired. -/
def ghashShrink (K : GHashKeys Item) (bucketMemory : Bool) (g : GHash Item) :
    Option (GHash Item) :=
  if g.size < g.minsize ∧ g.size > ghashMinBuckets then
    let newSize := g.size * g.maxload / 200
    ghashRehash K (if newSize > ghashMinBuckets then ghashMinBuckets else newSize) bucketMemory g
  else some g

/-- `ghash_remove`, where there is memory for a new bucket array or not. -/
def ghashRemove (K : GHashKeys Item) (item : Option Item) (bucketMemory : Bool)
    (g : GHash Item) : Option (GHashResult Item) :=
  match item with
  | none => some (0, g)
  | some item =>
      if g.locked then some (-1, g)
      else
        let i := GHash.slot K g.nbuckets item
        match (g.bucket i).find? (K.equal item) with
        | none => some (0, g)
        | some old =>
            (ghashShrink K bucketMemory { g with
              buckets := g.buckets.set i (removeFirst K item (g.bucket i))
              size := g.size - 1
              mods := g.mods + 1
              calls := g.calls ++ [.del old] }).map fun g => (1, g)

section Structure

variable (K : GHashKeys Item)

/-- Items with the same key have the same hash. -/
structure GHashKeys.Lawful : Prop where
  keys : Keyed.Equality K.equal
  hash : ∀ {x y}, K.equal x y = true → K.hash x = K.hash y

namespace GHash

/-- The items are where the lookup looks for them, and no key is there twice. -/
structure Sound (g : GHash Item) : Prop where
  unlocked : g.locked = false
  nonzero : g.nbuckets ≠ 0
  length : g.buckets.length = g.nbuckets.toNat
  placed : ∀ i, ∀ x ∈ g.bucket i, slot K g.nbuckets x = i
  distinct : Keyed.Distinct K.equal g.contents

variable {K}

theorem slot_lt {nbuckets : UInt32} (nonzero : nbuckets ≠ 0) (x : Item) :
    slot K nbuckets x < nbuckets.toNat := by
  have positive : 0 < nbuckets.toNat := by
    rw [Nat.pos_iff_ne_zero]
    exact fun zero => nonzero (UInt32.toNat_inj.mp zero)
  rw [slot, UInt32.toNat_mod]
  exact Nat.mod_lt _ positive

/-- A bucket array with one bucket replaced, up to the order of the items. -/
theorem flatten_set_perm {buckets : List (List Item)} {i : Nat} (within : i < buckets.length)
    (bucket : List Item) :
    (buckets.set i bucket).flatten.Perm (bucket ++ (buckets.eraseIdx i).flatten) := by
  rw [List.set_eq_take_append_cons_drop, if_pos within, List.eraseIdx_eq_take_drop_succ]
  simp only [List.flatten_append, List.flatten_cons]
  exact List.perm_append_comm_assoc ..

theorem flatten_perm {buckets : List (List Item)} {i : Nat} (within : i < buckets.length) :
    buckets.flatten.Perm (buckets.getD i [] ++ (buckets.eraseIdx i).flatten) := by
  have same : buckets.set i (buckets.getD i []) = buckets := by
    rw [List.getD_eq_getElem _ _ within, List.set_getElem_self]
  have perm := flatten_set_perm within (buckets.getD i [])
  rwa [same] at perm

/-- The items of the other buckets have other slots. -/
theorem Sound.slot_ne {g : GHash Item} (sound : g.Sound K) {i : Nat} {y : Item}
    (member : y ∈ (g.buckets.eraseIdx i).flatten) : slot K g.nbuckets y ≠ i := by
  obtain ⟨bucket, other, member⟩ := List.mem_flatten.mp member
  obtain ⟨j, within, differ, rfl⟩ := List.mem_eraseIdx_iff_getElem.mp other
  have placed := sound.placed j y (by
    rw [GHash.bucket, List.getD_eq_getElem _ _ within]
    exact member)
  rw [placed]
  exact differ

variable (lawful : K.Lawful)
include lawful

theorem slot_congr (nbuckets : UInt32) {x y : Item} (same : K.equal x y = true) :
    slot K nbuckets x = slot K nbuckets y := by
  rw [slot, slot, lawful.hash same]

theorem Sound.absent {g : GHash Item} (sound : g.Sound K) {x y : Item}
    (member : y ∈ (g.buckets.eraseIdx (slot K g.nbuckets x)).flatten) : K.equal x y = false := by
  rw [Bool.eq_false_iff]
  exact fun same => sound.slot_ne member (slot_congr lawful g.nbuckets same).symm

/-- The bucket of a key has all of the table that can be found under that key. -/
theorem Sound.find?_bucket {g : GHash Item} (sound : g.Sound K) (x : Item) :
    (g.bucket (slot K g.nbuckets x)).find? (K.equal x) = g.contents.find? (K.equal x) := by
  have within : slot K g.nbuckets x < g.buckets.length := by
    rw [sound.length]
    exact slot_lt sound.nonzero x
  rw [sound.distinct.find?_perm lawful.keys (flatten_perm within) x]
  exact (Keyed.find?_append_of_absent fun y member => sound.absent lawful member).symm

omit lawful in
theorem placed_set {n : UInt32} {buckets : List (List Item)} {i : Nat} {bucket : List Item}
    (placed : ∀ j, ∀ x ∈ buckets.getD j [], slot K n x = j) (fits : ∀ x ∈ bucket, slot K n x = i) :
    ∀ j, ∀ x ∈ (buckets.set i bucket).getD j [], slot K n x = j := by
  intro j x member
  rw [List.getD_eq_getElem?_getD, List.getElem?_set] at member
  split_ifs at member with same within
  · exact same ▸ fits x member
  · simp at member
  · rw [← List.getD_eq_getElem?_getD] at member
    exact placed j x member

/-- The table with other items in the bucket of a key. -/
theorem Sound.setBucket {g : GHash Item} (sound : g.Sound K) {x : Item} {bucket : List Item}
    (kept : List Item) (fits : ∀ y ∈ bucket, slot K g.nbuckets y = slot K g.nbuckets x)
    (perm : bucket.Perm (kept ++ Keyed.erase K.equal x (g.bucket (slot K g.nbuckets x)))) :
    (g.buckets.set (slot K g.nbuckets x) bucket).flatten.Perm
        (kept ++ Keyed.erase K.equal x g.contents) ∧
      ∀ j, ∀ y ∈ (g.buckets.set (slot K g.nbuckets x) bucket).getD j [],
        slot K g.nbuckets y = j := by
  have within : slot K g.nbuckets x < g.buckets.length := by
    rw [sound.length]
    exact slot_lt sound.nonzero x
  refine ⟨?_, placed_set sound.placed fits⟩
  have others : Keyed.erase K.equal x (g.buckets.eraseIdx (slot K g.nbuckets x)).flatten =
      (g.buckets.eraseIdx (slot K g.nbuckets x)).flatten :=
    List.filter_eq_self.mpr fun y member => by simp [sound.absent lawful member]
  have all : (Keyed.erase K.equal x g.contents).Perm
      (Keyed.erase K.equal x (g.bucket (slot K g.nbuckets x)) ++
        (g.buckets.eraseIdx (slot K g.nbuckets x)).flatten) := by
    have split := (flatten_perm within).filter fun y => !K.equal x y
    rw [List.filter_append] at split
    rw [← others]
    exact split
  have set := (flatten_set_perm within bucket).trans (perm.append_right _)
  rw [List.append_assoc] at set
  exact set.trans (all.symm.append_left kept)

theorem replaceFirst_perm {x old : Item} {bucket : List Item}
    (distinct : Keyed.Distinct K.equal bucket) (found : bucket.find? (K.equal x) = some old) :
    (replaceFirst K x bucket).Perm (x :: Keyed.erase K.equal x bucket) := by
  induction bucket with
  | nil => simp at found
  | cons y bucket ih =>
      obtain ⟨differ, rest⟩ := List.pairwise_cons.mp distinct
      unfold replaceFirst
      split_ifs with same
      · have others : Keyed.erase K.equal x bucket = bucket :=
          List.filter_eq_self.mpr fun z member => by
            rw [lawful.keys.congr_left same, differ z member]
            rfl
        rw [Keyed.erase, List.filter_cons_of_neg (by simp [same])]
        exact (List.Perm.of_eq others.symm).cons x
      · rw [List.find?_cons_of_neg same] at found
        rw [Keyed.erase, List.filter_cons_of_pos (by simp [same])]
        exact ((ih rest found).cons y).trans (List.Perm.swap ..)

theorem removeFirst_eq {x : Item} {bucket : List Item}
    (distinct : Keyed.Distinct K.equal bucket) :
    removeFirst K x bucket = Keyed.erase K.equal x bucket := by
  induction bucket with
  | nil => rfl
  | cons y bucket ih =>
      obtain ⟨differ, rest⟩ := List.pairwise_cons.mp distinct
      unfold removeFirst
      split_ifs with same
      · rw [Keyed.erase, List.filter_cons_of_neg (by simp [same])]
        refine (List.filter_eq_self.mpr fun z member => ?_).symm
        rw [lawful.keys.congr_left same, differ z member]
        rfl
      · rw [ih rest, Keyed.erase, Keyed.erase, List.filter_cons_of_pos (by simp [same])]

omit lawful in
/-- The move of some items to a new array of buckets. -/
theorem move_perm {n : UInt32} (nonzero : n ≠ 0) (items : List Item)
    {buckets : List (List Item)} (length : buckets.length = n.toNat)
    (placed : ∀ j, ∀ x ∈ buckets.getD j [], slot K n x = j) :
    let moved := items.foldl (fun buckets item =>
      buckets.set (slot K n item) (item :: buckets.getD (slot K n item) [])) buckets
    moved.length = n.toNat ∧ (∀ j, ∀ x ∈ moved.getD j [], slot K n x = j) ∧
      moved.flatten.Perm (items ++ buckets.flatten) := by
  induction items generalizing buckets with
  | nil => exact ⟨length, placed, .refl _⟩
  | cons item items ih =>
      have within : slot K n item < buckets.length := by
        rw [length]
        exact slot_lt nonzero item
      have same : ∀ x ∈ item :: buckets.getD (slot K n item) [],
          slot K n x = slot K n item := by
        intro x member
        cases List.mem_cons.mp member with
        | inl head => rw [head]
        | inr member => exact placed _ x member
      obtain ⟨moved, fits, perm⟩ := ih (by rw [List.length_set, length]) (placed_set placed same)
      refine ⟨moved, fits, perm.trans ?_⟩
      have first := (flatten_set_perm within (item :: buckets.getD (slot K n item) [])).trans
        ((flatten_perm within).symm.cons item)
      exact (first.append_left items).trans List.perm_middle

/-- A rehash keeps the items, whatever becomes of the memory for it. -/
theorem Sound.rehash {g : GHash Item} (sound : g.Sound K) {n : UInt32} (nonzero : n ≠ 0)
    (memory : Bool) :
    ∃ g', ghashRehash K n memory g = some g' ∧ g'.Sound K ∧ g'.contents.Perm g.contents ∧
      g'.size = g.size ∧ g'.maxload = g.maxload ∧ g'.mods = g.mods ∧ g'.calls = g.calls := by
  unfold ghashRehash
  rw [if_neg nonzero]
  cases memory with
  | false =>
      exact ⟨g, rfl, sound, .refl _, rfl, rfl, rfl, rfl⟩
  | true =>
      have empty : ∀ j, ∀ x ∈ (List.replicate n.toNat ([] : List Item)).getD j [],
          slot K n x = j := by
        intro j x member
        rw [List.getD_eq_getElem?_getD, List.getElem?_replicate] at member
        split_ifs at member <;> simp at member
      obtain ⟨length, placed, perm⟩ := move_perm nonzero g.contents
        (List.length_replicate (n := n.toNat) (a := ([] : List Item))) empty
      rw [List.flatten_replicate_nil, List.append_nil] at perm
      refine ⟨_, rfl, ⟨sound.unlocked, nonzero, ?_, ?_, ?_⟩, ?_, rfl, rfl, rfl, rfl⟩
      · rw [← List.foldl_flatten]
        exact length
      · intro i x member
        refine placed i x ?_
        rw [GHash.contents, List.foldl_flatten]
        exact member
      · refine sound.distinct.perm lawful.keys ?_
        rw [GHash.contents, GHash.contents, GHash.updateSizes, ← List.foldl_flatten]
        exact perm.symm
      · rw [GHash.contents, GHash.updateSizes, ← List.foldl_flatten]
        exact perm

end GHash

end Structure

end Mpd
