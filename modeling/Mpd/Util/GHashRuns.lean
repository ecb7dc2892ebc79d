import Mathlib.Algebra.Group.Nat.Defs
import Mpd.Util.GHash
import Mpd.Transition

/-! Over all runs, whatever becomes of the memory, the hash table of `ghash.c` is a finite map,
tells of each item that comes and goes, and is walked item by item. -/

set_option autoImplicit false

namespace Mpd

variable {Item : Type}

def ghashAdded (calls : List (GHashCall Item)) : List Item :=
  calls.filterMap fun
    | .add item => some item
    | .del _ => none

def ghashDeleted (calls : List (GHashCall Item)) : List Item :=
  calls.filterMap fun
    | .add _ => none
    | .del item => some item

inductive GHashEvent (Item : Type) where
  | put (item : Option Item) (bucketMemory entryMemory : Bool)
  | remove (item : Option Item) (bucketMemory : Bool)

def ghashStep (K : GHashKeys Item) (g : GHash Item) : GHashEvent Item → Option (GHashResult Item)
  | .put item bucketMemory entryMemory => ghashPut K item bucketMemory entryMemory g
  | .remove item bucketMemory => ghashRemove K item bucketMemory g

def ghashRun (K : GHashKeys Item) (g : GHash Item) :
    List (GHashEvent Item) → Option (List Int × GHash Item)
  | [] => some ([], g)
  | event :: events => do
      let (result, g) ← ghashStep K g event
      let (results, g) ← ghashRun K g events
      return (result :: results, g)

def mapStep (equal : Item → Item → Bool) (items : List Item) : GHashEvent Item → Int × List Item
  | .put none _ _ => (-1, items)
  | .put (some item) _ entryMemory =>
      if (items.find? (equal item)).isSome then (1, Keyed.put equal item items)
      else if entryMemory then (0, Keyed.put equal item items)
      else (-1, items)
  | .remove none _ => (0, items)
  | .remove (some item) _ =>
      if (items.find? (equal item)).isSome then (1, Keyed.erase equal item items) else (0, items)

def mapRun (equal : Item → Item → Bool) (items : List Item) :
    List (GHashEvent Item) → List Int × List Item
  | [] => ([], items)
  | event :: events =>
      let step := mapStep equal items event
      let rest := mapRun equal step.2 events
      (step.1 :: rest.1, rest.2)

namespace GHash

structure Represents (K : GHashKeys Item) (g : GHash Item) (items : List Item) : Prop where
  sound : g.Sound K
  contents : g.contents.Perm items
  size : g.size.toNat = items.length
  balanced : (ghashAdded g.calls).Perm (ghashDeleted g.calls ++ items)

/-- The maximum load allows for the minimum of buckets, and there is room for one more item
before the count times that load would wrap. -/
structure Roomy (maxload : UInt32) (items : List Item) : Prop where
  load : 7 ≤ maxload.toNat
  room : (items.length + 1) * maxload.toNat < 2 ^ 32

section Refinement

variable {K : GHashKeys Item} (lawful : K.Lawful) {g : GHash Item} {items : List Item}
include lawful

theorem Represents.find? (represents : g.Represents K items) (x : Item) :
    (g.bucket (slot K g.nbuckets x)).find? (K.equal x) = items.find? (K.equal x) := by
  rw [represents.sound.find?_bucket lawful,
    represents.sound.distinct.find?_perm lawful.keys represents.contents]

theorem Represents.distinct (represents : g.Represents K items) :
    Keyed.Distinct K.equal items :=
  represents.sound.distinct.perm lawful.keys represents.contents

omit lawful in
theorem distinct_bucket (sound : g.Sound K) (x : Item) :
    Keyed.Distinct K.equal (g.bucket (slot K g.nbuckets x)) := by
  have within : slot K g.nbuckets x < g.buckets.length := by
    rw [sound.length]
    exact slot_lt sound.nonzero x
  refine sound.distinct.sublist ?_
  rw [GHash.bucket, List.getD_eq_getElem _ _ within]
  exact List.sublist_flatten_of_mem (List.getElem_mem within)

omit lawful in
theorem slot_of_mem_bucket (sound : g.Sound K) {x y : Item}
    (member : y ∈ x :: g.bucket (slot K g.nbuckets x)) :
    slot K g.nbuckets y = slot K g.nbuckets x := by
  obtain rfl | member := List.mem_cons.mp member
  · rfl
  · exact sound.placed _ y member

theorem Represents.replace (represents : g.Represents K items) {x old : Item}
    (found : items.find? (K.equal x) = some old) :
    Represents K
      { g with
        buckets := g.buckets.set (slot K g.nbuckets x)
          (replaceFirst K x (g.bucket (slot K g.nbuckets x)))
        mods := g.mods + 1
        calls := g.calls ++ [.del old, .add x] }
      (Keyed.put K.equal x items) := by
  have sound := represents.sound
  have perm := replaceFirst_perm lawful (distinct_bucket sound x)
    ((represents.find? lawful x).trans found)
  obtain ⟨contents, placed⟩ := sound.setBucket lawful [x]
    (fun y member => slot_of_mem_bucket sound (List.mem_cons.mpr
      ((List.mem_cons.mp (perm.mem_iff.mp member)).imp id fun other =>
        (Keyed.mem_erase.mp other).1))) perm
  have whole : _ :=
    contents.trans ((represents.contents.filter fun y => !K.equal x y).cons x)
  have split := (represents.distinct lawful).perm_cons_erase lawful.keys found
  refine ⟨⟨sound.unlocked, sound.nonzero, by rw [List.length_set, sound.length], placed, ?_⟩,
    whole, ?_, ?_⟩
  · exact ((represents.distinct lawful).put x).perm lawful.keys whole.symm
  · rw [represents.size, split.length_eq]
    rfl
  · have balanced := represents.balanced.trans (split.append_left _)
    have added : ghashAdded (g.calls ++ [.del old, .add x]) = ghashAdded g.calls ++ [x] := by
      simp [ghashAdded]
    have deleted : ghashDeleted (g.calls ++ [.del old, .add x]) =
        ghashDeleted g.calls ++ [old] := by
      simp [ghashDeleted]
    change (ghashAdded (g.calls ++ [.del old, .add x])).Perm
      (ghashDeleted (g.calls ++ [.del old, .add x]) ++ (x :: Keyed.erase K.equal x items))
    rw [added, deleted]
    have more := (balanced.append_right [x]).trans (List.perm_append_singleton ..)
    rw [List.append_assoc]
    refine more.trans ?_
    exact List.perm_middle.symm.trans
      ((List.Perm.swap ..).append_left (ghashDeleted g.calls))

theorem Represents.insert (represents : g.Represents K items) {x : Item}
    (absent : items.find? (K.equal x) = none) (room : items.length + 1 < 2 ^ 32) :
    Represents K
      { g with
        buckets := g.buckets.set (slot K g.nbuckets x) (x :: g.bucket (slot K g.nbuckets x))
        size := g.size + 1
        calls := g.calls ++ [.add x] }
      (Keyed.put K.equal x items) := by
  have sound := represents.sound
  have same : Keyed.erase K.equal x (g.bucket (slot K g.nbuckets x)) =
      g.bucket (slot K g.nbuckets x) :=
    Keyed.erase_of_absent ((represents.find? lawful x).trans absent)
  obtain ⟨contents, placed⟩ := sound.setBucket lawful [x]
    (fun y member => slot_of_mem_bucket sound member) (by rw [same]; exact .refl _)
  have whole : _ :=
    contents.trans ((represents.contents.filter fun y => !K.equal x y).cons x)
  refine ⟨⟨sound.unlocked, sound.nonzero, by rw [List.length_set, sound.length], placed, ?_⟩,
    whole, ?_, ?_⟩
  · exact ((represents.distinct lawful).put x).perm lawful.keys whole.symm
  · change (g.size + 1).toNat = _
    rw [UInt32.toNat_add, represents.size, Keyed.put, Keyed.erase_of_absent absent]
    exact Nat.mod_eq_of_lt room
  · have added : ghashAdded (g.calls ++ [.add x]) = ghashAdded g.calls ++ [x] := by
      simp [ghashAdded]
    have deleted : ghashDeleted (g.calls ++ [.add x]) = ghashDeleted g.calls := by
      simp [ghashDeleted]
    change (ghashAdded (g.calls ++ [.add x])).Perm
      (ghashDeleted (g.calls ++ [.add x]) ++ (x :: Keyed.erase K.equal x items))
    rw [added, deleted, Keyed.erase_of_absent absent]
    exact ((represents.balanced.append_right [x]).trans
      (List.perm_append_singleton ..)).trans List.perm_middle.symm

theorem Represents.remove (represents : g.Represents K items) {x old : Item}
    (found : items.find? (K.equal x) = some old) :
    Represents K
      { g with
        buckets := g.buckets.set (slot K g.nbuckets x)
          (removeFirst K x (g.bucket (slot K g.nbuckets x)))
        size := g.size - 1
        mods := g.mods + 1
        calls := g.calls ++ [.del old] }
      (Keyed.erase K.equal x items) := by
  have sound := represents.sound
  have same := removeFirst_eq lawful (x := x) (distinct_bucket sound x)
  obtain ⟨contents, placed⟩ := sound.setBucket lawful []
    (fun y member => slot_of_mem_bucket sound (List.mem_cons_of_mem x
      (Keyed.mem_erase.mp (same ▸ member)).1)) (List.Perm.of_eq same)
  have whole : _ := contents.trans (represents.contents.filter fun y => !K.equal x y)
  have split := (represents.distinct lawful).perm_cons_erase lawful.keys found
  have counted : items.length = (Keyed.erase K.equal x items).length + 1 := split.length_eq
  refine ⟨⟨sound.unlocked, sound.nonzero, by rw [List.length_set, sound.length], placed, ?_⟩,
    whole, ?_, ?_⟩
  · exact ((represents.distinct lawful).erase x).perm lawful.keys whole.symm
  · have size := represents.size
    change (g.size - 1).toNat = _
    rw [UInt32.toNat_sub_of_le _ _ (by rw [UInt32.le_iff_toNat_le, size, counted]; simp), size]
    simp [counted]
  · have added : ghashAdded (g.calls ++ [.del old]) = ghashAdded g.calls := by
      simp [ghashAdded]
    have deleted : ghashDeleted (g.calls ++ [.del old]) = ghashDeleted g.calls ++ [old] := by
      simp [ghashDeleted]
    change (ghashAdded (g.calls ++ [.del old])).Perm
      (ghashDeleted (g.calls ++ [.del old]) ++ Keyed.erase K.equal x items)
    rw [added, deleted, List.append_assoc]
    exact represents.balanced.trans (split.append_left _)

omit lawful in
/-- A change of the table that touches none of this. -/
theorem Represents.of_same {g' : GHash Item} (represents : g.Represents K items)
    (sound : g'.Sound K) (contents : g'.contents.Perm g.contents) (size : g'.size = g.size)
    (calls : g'.calls = g.calls) : g'.Represents K items :=
  ⟨sound, contents.trans represents.contents, by rw [size, represents.size],
    by rw [calls]; exact represents.balanced⟩

end Refinement

end GHash

namespace GHash

section Steps

variable {K : GHashKeys Item} (lawful : K.Lawful) {g : GHash Item} {items : List Item}
include lawful

theorem Represents.expand (represents : g.Represents K items) (bucketMemory : Bool) :
    ∃ g', ghashExpand K bucketMemory g = some g' ∧ g'.Represents K items ∧
      g'.maxload = g.maxload := by
  have odd : g.nbuckets * 2 - 1 ≠ 0 := by
    intro zero
    have twice : g.nbuckets * 2 = 1 := by
      rw [← UInt32.sub_add_cancel (g.nbuckets * 2) 1, zero]
      rfl
    have parity := congrArg UInt32.toNat twice
    rw [UInt32.toNat_mul, show (2 : UInt32).toNat = 2 from rfl,
      show (1 : UInt32).toNat = 1 from rfl] at parity
    omega
  unfold ghashExpand
  split_ifs
  · obtain ⟨g', done, sound, contents, size, maxload, -, calls⟩ :=
      represents.sound.rehash lawful odd bucketMemory
    exact ⟨g', done, represents.of_same sound contents size calls, maxload⟩
  · exact ⟨g, rfl, represents, rfl⟩

/-- The table does not shrink to nothing. -/
theorem Represents.shrink (represents : g.Represents K items) (bucketMemory : Bool)
    (load : 7 ≤ g.maxload.toNat) (room : items.length * g.maxload.toNat < 2 ^ 32) :
    ∃ g', ghashShrink K bucketMemory g = some g' ∧ g'.Represents K items ∧
      g'.maxload = g.maxload := by
  unfold ghashShrink
  by_cases few : g.size < g.minsize ∧ g.size > ghashMinBuckets
  · have positive : (if g.size * g.maxload / 200 > ghashMinBuckets then ghashMinBuckets
        else g.size * g.maxload / 200) ≠ 0 := by
      split_ifs
      · decide
      · intro zero
        have many : 31 < items.length := by
          rw [← represents.size]
          exact UInt32.lt_iff_toNat_lt.mp few.2
        have percent := congrArg UInt32.toNat zero
        rw [UInt32.toNat_div, UInt32.toNat_mul, represents.size, Nat.mod_eq_of_lt room,
          show (200 : UInt32).toNat = 200 from rfl, show (0 : UInt32).toNat = 0 from rfl] at percent
        have product : 32 * 7 ≤ items.length * g.maxload.toNat := Nat.mul_le_mul many load
        omega
    obtain ⟨g', done, sound, contents, size, maxload, -, calls⟩ :=
      represents.sound.rehash lawful positive bucketMemory
    rw [if_pos few]
    exact ⟨g', done, represents.of_same sound contents size calls, maxload⟩
  · rw [if_neg few]
    exact ⟨g, rfl, represents, rfl⟩

theorem Represents.addEntry (represents : g.Represents K items) {x : Item}
    (absent : items.find? (K.equal x) = none) (entryMemory : Bool)
    (room : items.length + 1 < 2 ^ 32) :
    (ghashAddEntry K x entryMemory g).1 = (if entryMemory then 0 else -1) ∧
      (ghashAddEntry K x entryMemory g).2.Represents K
        (if entryMemory then Keyed.put K.equal x items else items) ∧
      (ghashAddEntry K x entryMemory g).2.maxload = g.maxload := by
  have sound := represents.sound
  have counted : ({ g with mods := g.mods + 1 } : GHash Item).Represents K items :=
    represents.of_same ⟨sound.unlocked, sound.nonzero, sound.length, sound.placed,
      sound.distinct⟩ (.refl _) rfl rfl
  cases entryMemory with
  | true => exact ⟨rfl, counted.insert lawful absent room, rfl⟩
  | false => exact ⟨rfl, counted, rfl⟩

/-- What one call does to the table is what it means for the map. -/
theorem Represents.step (represents : g.Represents K items) (roomy : Roomy g.maxload items)
    (event : GHashEvent Item) :
    ∃ g', ghashStep K g event = some ((mapStep K.equal items event).1, g') ∧
      g'.Represents K (mapStep K.equal items event).2 ∧ g'.maxload = g.maxload := by
  have unlocked : ¬ g.locked = true := by simp [represents.sound.unlocked]
  have load := roomy.load
  have room : items.length + 1 < 2 ^ 32 := by
    have one : (items.length + 1) * 1 ≤ (items.length + 1) * g.maxload.toNat :=
      Nat.mul_le_mul_left _ (by omega)
    have whole := roomy.room
    omega
  cases event with
  | put item bucketMemory entryMemory =>
      cases item with
      | none => exact ⟨g, rfl, represents, rfl⟩
      | some x =>
          have lookup := represents.find? lawful x
          simp only [ghashStep, ghashPut, mapStep]
          rw [if_neg unlocked]
          cases found : items.find? (K.equal x) with
          | some old =>
              rw [found] at lookup
              simp only [lookup, Option.isSome_some, if_true]
              exact ⟨_, rfl, represents.replace lawful found, rfl⟩
          | none =>
              rw [found] at lookup
              obtain ⟨g', done, represents', maxload⟩ := represents.expand lawful bucketMemory
              obtain ⟨result, represents', maxload'⟩ :=
                represents'.addEntry lawful found entryMemory room
              simp only [lookup, done, Option.map_some, Option.isSome_none, Bool.false_eq_true,
                if_false]
              refine ⟨_, ?_, ?_, maxload'.trans maxload⟩
              · refine congrArg some (Prod.ext (result.trans ?_) rfl)
                split_ifs <;> rfl
              · split_ifs at represents' ⊢ <;> exact represents'
  | remove item bucketMemory =>
      cases item with
      | none => exact ⟨g, rfl, represents, rfl⟩
      | some x =>
          have lookup := represents.find? lawful x
          simp only [ghashStep, ghashRemove, mapStep]
          rw [if_neg unlocked]
          cases found : items.find? (K.equal x) with
          | none =>
              rw [found] at lookup
              simp only [lookup, Option.isSome_none, Bool.false_eq_true, if_false]
              exact ⟨g, rfl, represents, rfl⟩
          | some old =>
              rw [found] at lookup
              have fewer : (Keyed.erase K.equal x items).length ≤ items.length :=
                List.length_filter_le ..
              have removed := represents.remove lawful found
              obtain ⟨g', done, represents', maxload⟩ := removed.shrink lawful bucketMemory load
                (Nat.lt_of_le_of_lt (Nat.mul_le_mul_right _ (by omega)) roomy.room)
              simp only [lookup, Option.isSome_some, if_true]
              exact ⟨g', by rw [done]; rfl, represents', maxload⟩

/-- What a run of calls does to the table is what it means for the map. -/
theorem Represents.run (represents : g.Represents K items) {events : List (GHashEvent Item)}
    (roomy : Transition.Meets (fun items event => (mapStep K.equal items event).2)
      (fun items _ => Roomy g.maxload items) items events) :
    ∃ g', ghashRun K g events = some ((mapRun K.equal items events).1, g') ∧
      g'.Represents K (mapRun K.equal items events).2 := by
  induction events generalizing g items with
  | nil => exact ⟨g, rfl, represents⟩
  | cons event events ih =>
      obtain ⟨g', stepped, represents', maxload⟩ := represents.step lawful roomy.1 event
      obtain ⟨g'', ran, represents''⟩ := ih represents' (by rw [maxload]; exact roomy.2)
      refine ⟨g'', ?_, represents''⟩
      simp only [ghashRun, stepped, ran, Option.bind_eq_bind, Option.bind_some]
      rfl

omit lawful in
theorem represents_create (isize maxload : UInt32) :
    (ghashCreate isize maxload : GHash Item).Represents K [] := by
  have empty : (ghashCreate isize maxload : GHash Item).contents = [] :=
    List.flatten_replicate_nil
  have nonzero : (if isize < ghashMinBuckets then ghashMinBuckets else isize) ≠ 0 := by
    split_ifs with less
    · decide
    · rintro rfl
      exact less (by decide)
  refine ⟨⟨rfl, nonzero, List.length_replicate, ?_, ?_⟩, List.Perm.of_eq empty, rfl, .refl _⟩
  · intro i x member
    have none : x ∈ (ghashCreate isize maxload : GHash Item).contents := by
      rw [GHash.bucket, List.getD_eq_getElem?_getD] at member
      cases found : (ghashCreate isize maxload : GHash Item).buckets[i]? with
      | none => simp [found] at member
      | some bucket =>
          rw [found] at member
          exact List.mem_flatten.mpr ⟨bucket, List.mem_of_getElem? found, member⟩
    rw [empty] at none
    simp at none
  · rw [empty]
    exact List.Pairwise.nil

end Steps

end GHash

/-- `ghash_destroy` of a table without iterators: the record of its calls, `none` where the
assertion fails. -/
def ghashDestroy (g : GHash Item) : Option (List (GHashCall Item)) :=
  if g.locked then none
  else some (g.calls ++ g.contents.map .del)

structure GHashWalk (Item : Type) where
  e : List Item
  bucket : Nat
  mods : UInt32

def ghashWalkInit (g : GHash Item) : GHashWalk Item where
  e := []
  bucket := 0
  mods := g.mods

/-- The first bucket from the given one on that is not empty. -/
def ghashWalkSkip (g : GHash Item) (bucket : Nat) : Nat :=
  if bucket < g.nbuckets.toNat ∧ g.bucket bucket = [] then ghashWalkSkip g (bucket + 1) else bucket
termination_by g.nbuckets.toNat - bucket

def ghashWalkNext (g : GHash Item) (walk : GHashWalk Item) : Option Item × GHashWalk Item :=
  if g.mods ≠ walk.mods then (none, walk)
  else
    match walk.e with
    | item :: e => (some item, { walk with e })
    | [] =>
        let bucket := ghashWalkSkip g walk.bucket
        if bucket = g.nbuckets.toNat then (none, { walk with bucket })
        else
          match g.bucket bucket with
          | item :: e => (some item, { walk with e, bucket := bucket + 1 })
          | [] => (none, { walk with bucket := bucket + 1 })

def ghashWalk (g : GHash Item) (walk : GHashWalk Item) : Nat → List (Option Item)
  | 0 => []
  | calls + 1 =>
      let next := ghashWalkNext g walk
      next.1 :: ghashWalk g next.2 calls

section Walk

variable {g : GHash Item}

/-- The items that a walk still has before it. -/
def GHashWalk.ahead (g : GHash Item) (walk : GHashWalk Item) : List Item :=
  walk.e ++ (g.buckets.drop walk.bucket).flatten

theorem flatten_drop {buckets : List (List Item)} {i : Nat} (within : i < buckets.length) :
    (buckets.drop i).flatten = buckets.getD i [] ++ (buckets.drop (i + 1)).flatten := by
  rw [List.drop_eq_getElem_cons within, List.flatten_cons, List.getD_eq_getElem _ _ within]

/-- The buckets that are skipped have no items. -/
theorem ghashWalkSkip_spec (length : g.buckets.length = g.nbuckets.toNat) (bucket : Nat)
    (within : bucket ≤ g.nbuckets.toNat) :
    (g.buckets.drop (ghashWalkSkip g bucket)).flatten = (g.buckets.drop bucket).flatten ∧
      ghashWalkSkip g bucket ≤ g.nbuckets.toNat ∧
      (ghashWalkSkip g bucket = g.nbuckets.toNat ∨ g.bucket (ghashWalkSkip g bucket) ≠ []) := by
  induction bucket using ghashWalkSkip.induct g with
  | case1 bucket skips ih =>
      obtain ⟨same, bound, stops⟩ := ih skips.1
      rw [ghashWalkSkip, if_pos skips]
      refine ⟨same.trans ?_, bound, stops⟩
      rw [flatten_drop (by omega : bucket < g.buckets.length)]
      exact (congrArg (· ++ _) skips.2).symm
  | case2 bucket stays =>
      rw [ghashWalkSkip, if_neg stays]
      refine ⟨rfl, within, ?_⟩
      rcases Nat.lt_or_ge bucket g.nbuckets.toNat with less | reached
      · exact .inr fun empty => stays ⟨less, empty⟩
      · exact .inl (Nat.le_antisymm within reached)

/-- One call takes the first of the items ahead. -/
theorem ghashWalkNext_ahead (length : g.buckets.length = g.nbuckets.toNat)
    {walk : GHashWalk Item} (same : walk.mods = g.mods)
    (within : walk.bucket ≤ g.nbuckets.toNat) :
    (ghashWalkNext g walk).1 = (walk.ahead g).head? ∧
      (ghashWalkNext g walk).2.ahead g = (walk.ahead g).tail ∧
      (ghashWalkNext g walk).2.mods = g.mods ∧
      (ghashWalkNext g walk).2.bucket ≤ g.nbuckets.toNat := by
  obtain ⟨skipped, bound, stops⟩ := ghashWalkSkip_spec length walk.bucket within
  unfold ghashWalkNext
  rw [if_neg (by simp [same])]
  obtain ⟨e, bucket, mods⟩ := walk
  cases e with
  | cons item e => exact ⟨rfl, rfl, same, within⟩
  | nil =>
      dsimp only at *
      simp only [GHashWalk.ahead, List.nil_append, ← skipped]
      split_ifs with ended
      · have nothing : g.buckets.drop (ghashWalkSkip g bucket) = [] :=
          List.drop_eq_nil_of_le (Nat.le_of_eq (length.trans ended.symm))
        rw [nothing]
        exact ⟨rfl, rfl, same, bound⟩
      · have inside : ghashWalkSkip g bucket < g.buckets.length := by omega
        rw [flatten_drop inside]
        have found := stops.resolve_left ended
        unfold GHash.bucket at found ⊢
        cases chain : g.buckets.getD (ghashWalkSkip g bucket) [] with
        | nil => exact absurd chain found
        | cons item e =>
            exact ⟨rfl, rfl, same, Nat.lt_of_lt_of_eq inside length⟩

theorem ghashWalk_ahead (length : g.buckets.length = g.nbuckets.toNat)
    {walk : GHashWalk Item} (same : walk.mods = g.mods)
    (within : walk.bucket ≤ g.nbuckets.toNat) (calls : Nat) :
    ghashWalk g walk calls =
      ((walk.ahead g).map some ++ List.replicate calls none).take calls := by
  induction calls generalizing walk with
  | zero => rfl
  | succ calls ih =>
      obtain ⟨first, rest, mods, bound⟩ := ghashWalkNext_ahead length same within
      rw [ghashWalk, ih mods bound, first, rest]
      cases walk.ahead g with
      | nil => simp [List.replicate_succ]
      | cons item items =>
          simp only [List.head?_cons, List.tail_cons, List.map_cons, List.cons_append,
            List.take_succ_cons, List.replicate_succ', ← List.append_assoc]
          exact congrArg _ (List.take_append_of_le_length (by simp)).symm

theorem ghashWalk_init (length : g.buckets.length = g.nbuckets.toNat) (more : Nat) :
    ghashWalk g (ghashWalkInit g) (g.contents.length + more) =
      g.contents.map some ++ List.replicate more none := by
  rw [ghashWalk_ahead length rfl (Nat.zero_le _)]
  change List.take _ (g.contents.map some ++ _) = _
  rw [List.take_append, List.take_of_length_le (by simp), List.take_replicate]
  simp

end Walk

/-- A finite map from keys to items, where an item stands for its key. -/
abbrev KeyMap (Item : Type) := Item → Option Item

namespace KeyMap

variable (equal : Item → Item → Bool) (map : KeyMap Item)

/-- What a call means for the map. -/
def step : GHashEvent Item → Int × KeyMap Item
  | .put none _ _ => (-1, map)
  | .put (some x) _ entryMemory =>
      if (map x).isSome || entryMemory then
        (if (map x).isSome then 1 else 0, fun y => if equal y x then some x else map y)
      else (-1, map)
  | .remove none _ => (0, map)
  | .remove (some x) _ =>
      if (map x).isSome then (1, fun y => if equal y x then none else map y) else (0, map)

def run (map : KeyMap Item) : List (GHashEvent Item) → List Int × KeyMap Item
  | [] => ([], map)
  | event :: events =>
      let step := map.step equal event
      let rest := run step.2 events
      (step.1 :: rest.1, rest.2)

variable {equal} (keys : Keyed.Equality equal)
include keys

theorem step_lookup (items : List Item) (event : GHashEvent Item) :
    step equal (Keyed.lookup equal items) event =
      ((mapStep equal items event).1, Keyed.lookup equal (mapStep equal items event).2) := by
  have lookup (x : Item) : items.find? (equal x) = Keyed.lookup equal items x := rfl
  cases event with
  | put item bucketMemory entryMemory =>
      cases item with
      | none => rfl
      | some x =>
          simp only [step, mapStep, lookup]
          cases (Keyed.lookup equal items x).isSome with
          | true => simp [Keyed.lookup_put keys]
          | false =>
              cases entryMemory with
              | true => simp [Keyed.lookup_put keys]
              | false => rfl
  | remove item bucketMemory =>
      cases item with
      | none => rfl
      | some x =>
          simp only [step, mapStep, lookup]
          cases (Keyed.lookup equal items x).isSome with
          | true => simp [Keyed.lookup_erase keys]
          | false => rfl

theorem run_lookup (items : List Item) (events : List (GHashEvent Item)) :
    run equal (Keyed.lookup equal items) events =
      ((mapRun equal items events).1, Keyed.lookup equal (mapRun equal items events).2) := by
  induction events generalizing items with
  | nil => rfl
  | cons event events ih => simp only [run, mapRun, step_lookup keys, ih]

end KeyMap

section Table

/-- The map has room for the items of the calls. -/
def GHashRoom (K : GHashKeys Item) (maxload : UInt32) (events : List (GHashEvent Item)) : Prop :=
  Transition.Meets (fun items event => (mapStep K.equal items event).2)
    (fun items _ => GHash.Roomy (ghashCreate 0 maxload : GHash Item).maxload items) [] events

def ghashPairs : GHashKeys (UInt32 × String) where
  hash item := item.1
  equal x y := x.1 == y.1

theorem ghashPairs_lawful : ghashPairs.Lawful where
  keys := {
    refl := fun x => by simp [ghashPairs]
    symm := fun same => by
      simp only [ghashPairs, beq_iff_eq] at same ⊢
      exact same.symm
    trans := fun {x y z} xy yz => by
      simp only [ghashPairs, beq_iff_eq] at xy yz ⊢
      exact xy.trans yz }
  hash := fun same => by simpa [ghashPairs] using same

def ghashCalls : List (GHashEvent (UInt32 × String)) :=
  [.put (some (5, "five")) true true, .put (some (36, "thirty-six")) true true,
    .put (some (5, "cinq")) true true, .remove (some (36, "")) true,
    .put (some (7, "seven")) true false]

theorem ghashCalls_room : GHashRoom ghashPairs 0 ghashCalls := by
  refine ⟨?_, ?_, ?_, ?_, ?_, trivial⟩ <;> exact ⟨by decide, by decide⟩

variable {K : GHashKeys Item} (lawful : K.Lawful)
include lawful

/-- A table that was just created represents the empty map, and after any calls the map that
these calls make of it. -/
theorem represents_run (isize : UInt32) {maxload : UInt32} {events : List (GHashEvent Item)}
    (room : GHashRoom K maxload events) :
    ∃ g, ghashRun K (ghashCreate isize maxload) events =
        some ((mapRun K.equal [] events).1, g) ∧
      g.Represents K (mapRun K.equal [] events).2 :=
  (GHash.represents_create isize maxload).run lawful room

/-- The table is a finite map: each call returns what it returns of the map, and afterwards a
lookup finds what the map has. -/
theorem ghash_isMap [DecidableEq Item] (isize : UInt32) {maxload : UInt32}
    {events : List (GHashEvent Item)} (room : GHashRoom K maxload events) :
    ∃ g, ghashRun K (ghashCreate isize maxload) events =
        some ((KeyMap.run K.equal (fun _ => none) events).1, g) ∧
      ∀ x, ghashGet K g (some x) = (KeyMap.run K.equal (fun _ => none) events).2 x := by
  obtain ⟨g, ran, represents⟩ := represents_run lawful isize room
  have same := KeyMap.run_lookup lawful.keys [] events
  rw [show Keyed.lookup K.equal [] = fun _ => none from rfl] at same
  rw [same]
  refine ⟨g, ran, fun x => (?_ : _ = _).trans (represents.find? lawful x)⟩
  -- an item that is in the table is found under its own key
  have pointer : (fun y => x == y || K.equal x y) = K.equal x := by
    funext y
    by_cases same : x = y
    · subst same
      simp [lawful.keys.refl]
    · simp [same]
  rw [ghashGet, pointer]

omit lawful in
theorem ghash_isMap_calls :
    ∃ g, ghashRun ghashPairs (ghashCreate 0 0) ghashCalls = some ([0, 0, 1, 1, -1], g) ∧
      ghashGet ghashPairs g (some (5, "")) = some (5, "cinq") := by
  obtain ⟨g, ran, lookup⟩ := ghash_isMap ghashPairs_lawful 0 ghashCalls_room
  exact ⟨g, ran, lookup (5, "")⟩

/-- Of each item that the table was told to take, it is told once that it goes: when it is
replaced, removed, or the table destroyed. -/
theorem ghash_balanced (isize : UInt32) {maxload : UInt32} {events : List (GHashEvent Item)}
    (room : GHashRoom K maxload events) :
    ∃ results g calls, ghashRun K (ghashCreate isize maxload) events = some (results, g) ∧
      ghashDestroy g = some calls ∧ (ghashAdded calls).Perm (ghashDeleted calls) := by
  obtain ⟨g, ran, represents⟩ := represents_run lawful isize room
  have unlocked : ¬ g.locked = true := by simp [represents.sound.unlocked]
  refine ⟨_, g, _, ran, if_neg unlocked, ?_⟩
  have added : ghashAdded (g.calls ++ g.contents.map .del) = ghashAdded g.calls := by
    simp [ghashAdded, List.filterMap_map]
  have deleted : ghashDeleted (g.calls ++ g.contents.map .del) =
      ghashDeleted g.calls ++ g.contents := by
    simp [ghashDeleted, List.filterMap_map]
  rw [added, deleted]
  exact represents.balanced.trans (represents.contents.symm.append_left _)

omit lawful in
theorem ghash_balanced_calls :
    ∃ results g calls, ghashRun ghashPairs (ghashCreate 0 0) ghashCalls = some (results, g) ∧
      ghashDestroy g = some calls ∧ (ghashAdded calls).Perm (ghashDeleted calls) :=
  ghash_balanced ghashPairs_lawful 0 ghashCalls_room

/-- A walk over the table returns each of its items once, and then nothing for good. -/
theorem ghash_walk (isize : UInt32) {maxload : UInt32} {events : List (GHashEvent Item)}
    (room : GHashRoom K maxload events) (more : Nat) :
    ∃ (results : List Int) (g : GHash Item) (items : List Item),
      ghashRun K (ghashCreate isize maxload) events = some (results, g) ∧
      ghashWalk g (ghashWalkInit g) (g.size.toNat + more) =
        items.map some ++ List.replicate more none ∧
      items.Perm (mapRun K.equal [] events).2 := by
  obtain ⟨g, ran, represents⟩ := represents_run lawful isize room
  refine ⟨_, g, g.contents, ran, ?_, represents.contents⟩
  have counted : g.size.toNat = g.contents.length :=
    represents.size.trans represents.contents.length_eq.symm
  rw [counted]
  exact ghashWalk_init represents.sound.length more

omit lawful in
theorem ghash_walk_calls :
    ∃ (results : List Int) (g : GHash (UInt32 × String)) (items : List (UInt32 × String)),
      ghashRun ghashPairs (ghashCreate 0 0) ghashCalls = some (results, g) ∧
      ghashWalk g (ghashWalkInit g) (g.size.toNat + 2) = items.map some ++ [none, none] ∧
      items.Perm [(5, "cinq")] :=
  ghash_walk ghashPairs_lawful 0 ghashCalls_room 2

end Table

end Mpd
