import Mathlib.Data.List.TakeDrop
import Mpd.Util.Strings

/-! The lists of ACLs that the external authentication makes of the `MPD_` lines of its reply. -/

set_option autoImplicit false

namespace Mpd.AclLists

open Strings

/-- The attributes `MPD_RULE`, `MPD_PIPE`, `MPD_QUEUE`, `MPD_TABLE`, `MPD_TABLE_STATIC`,
`MPD_FILTER` and `MPD_LIMIT`. -/
inductive Attr where
  | rule | pipe | queue | table | table_static | filter | limit
  deriving DecidableEq, Repr

def aclNameLen : Nat := 16
abbrev aclFilters : Nat := 16
abbrev aclDirs : Nat := 2

inductive Slot where
  | acl_rule | acl_pipe | acl_queue | acl_table
  | acl_filters (i : Fin aclFilters)
  | acl_limits (i : Fin aclDirs)
  deriving DecidableEq, Repr

structure Acl where
  number : UInt16
  real_number : UInt16
  name : Bytes
  rule : Bytes
  deriving DecidableEq, Repr

abbrev Lists := Slot → List Acl

def hash : UInt8 := 35
def equals : UInt8 := 61

def sameCase (s t : Bytes) : Bool :=
  let lower (c : UInt8) := if 65 ≤ c && c ≤ 90 then c + 32 else c
  s.map lower == t.map lower

inductive Reject where
  | wrongFilterNumber | wrongLimitDirection | incorrectAcl | wrongAclNumber | wrongAcl | duplicateAcl
  deriving DecidableEq, Repr

/-- What comes of a line. A crash is a string function that is given a null pointer. -/
inductive Outcome where
  | stored
  | rejected (reason : Reject)
  | crashed
  deriving DecidableEq, Repr

def target (attr : Attr) (val : Option Bytes) : Except Outcome (Slot × Option Bytes) :=
  match attr with
  | .rule => .ok (.acl_rule, val)
  | .pipe => .ok (.acl_pipe, val)
  | .queue => .ok (.acl_queue, val)
  | .table => .ok (.acl_table, val)
  | .table_static => .ok (.acl_table, val)
  | .filter =>
      match val with
      | none => .error .crashed
      | some val =>
          let (acl2, acl1) := strsep hash val
          let i := int (atol acl2)
          if h : i ≤ 0 ∨ i > aclFilters then .error (.rejected .wrongFilterNumber)
          else .ok (.acl_filters ⟨(i - 1).toNat, by omega⟩, acl1)
  | .limit =>
      match val with
      | none => .error .crashed
      | some val =>
          let (acl2, acl1) := strsep hash val
          if sameCase acl2 [105, 110] then .ok (.acl_limits 0, acl1)
          else if sameCase acl2 [111, 117, 116] then .ok (.acl_limits 1, acl1)
          else .error (.rejected .wrongLimitDirection)

/-- A new entry before the first one whose number is not below its own. -/
def insert (duplicates : Bool) (acl : Acl) : List Acl → Option (List Acl)
  | [] => some [acl]
  | first :: rest =>
      if first.number < acl.number then (insert duplicates acl rest).map (first :: ·)
      else if first.number = acl.number ∧ duplicates = false then none
      else some (acl :: first :: rest)

def newAcl (attr : Attr) (i : Int) (acl2 : Option Bytes) (acl3 : Bytes) : Acl where
  number := if attr = .table_static then 0 else UInt16.ofNat i.toNat
  real_number := if attr = .table_static then UInt16.ofNat i.toNat else 0
  name := (acl2.getD []).take (aclNameLen - 1)
  rule := acl3

/-- The branch of `AuthExternal` for the attributes `MPD_`. -/
def authExternal (attr : Attr) (val : Option Bytes) (lists : Lists) : Outcome × Lists :=
  match target attr val with
  | .error outcome => (outcome, lists)
  | .ok (_, none) => (.rejected .incorrectAcl, lists)
  | .ok (slot, some acl1) =>
      let (acl1, acl3) := strsep equals acl1
      let (acl1, acl2) := strsep hash acl1
      let i := int (atol acl1)
      if i ≤ 0 then (.rejected .wrongAclNumber, lists)
      else
        match acl3 with
        | none | some [] => (.rejected .wrongAcl, lists)
        | some (c :: rule) =>
            let duplicates := attr = .table ∨ attr = .table_static
            match insert duplicates (newAcl attr i acl2 (c :: rule)) (lists slot) with
            | none => (.rejected .duplicateAcl, lists)
            | some list => (.stored, Function.update lists slot list)

/-- Sorted by number, with no number twice in a list that is not the one of tables. -/
def Ordered (lists : Lists) : Prop :=
  ∀ slot, (lists slot).Pairwise (fun a b => a.number ≤ b.number) ∧
    (slot ≠ .acl_table → (lists slot).Pairwise fun a b => a.number ≠ b.number)

structure Fields where
  number : Int
  name : Bytes
  rule : Bytes
  deriving DecidableEq, Repr

def fields (text : Bytes) : Fields :=
  let (head, rule) := strsep equals text
  let (number, name) := strsep hash head
  ⟨decimal number, name.getD [], rule.getD []⟩

/-- The entry has the fields of the line. The number of a static table is its real one. -/
structure HasFields (attr : Attr) (acl : Acl) (fields : Fields) : Prop where
  number : ((if attr = .table_static then acl.real_number else acl.number).toNat : Int) =
    fields.number
  name : acl.name = fields.name
  rule : acl.rule = fields.rule

structure LineRight (attr : Attr) (val : Option Bytes) (lists : Lists) : Prop where
  ordered : Ordered (authExternal attr val lists).2
  unchanged : (authExternal attr val lists).1 ≠ .stored → (authExternal attr val lists).2 = lists
  grown : (authExternal attr val lists).1 = .stored → ∃ slot text acl before behind,
    target attr val = .ok (slot, some text) ∧ lists slot = before ++ behind ∧
      (authExternal attr val lists).2 = Function.update lists slot (before ++ acl :: behind) ∧
      HasFields attr acl (fields text)
  survives : (authExternal attr val lists).1 ≠ .crashed

def lineNumber (text : Bytes) : Int := int (atol (strsep hash (strsep equals text).1).1)

/-- The line passes the tests of the code: its number is positive, its rule is not empty, and only
a list of tables may have the number already. -/
structure Passes (attr : Attr) (text : Bytes) (list : List Acl) : Prop where
  number : 0 < lineNumber text
  rule : (strsep equals text).2 ≠ none ∧ (strsep equals text).2 ≠ some []
  new : attr = .table ∨ attr = .table_static ∨
    ∀ acl ∈ list, acl.number ≠ UInt16.ofNat (lineNumber text).toNat

/-- A value is there where it is cut, and a line that passes the tests has a number from 1 to 65535
and a name of at most 15 bytes. -/
structure LineFits (attr : Attr) (val : Option Bytes) (lists : Lists) : Prop where
  present : attr = .filter ∨ attr = .limit → val ≠ none
  room : ∀ slot text, target attr val = .ok (slot, some text) → Passes attr text (lists slot) →
    0 < (fields text).number ∧ (fields text).number < 65536 ∧
      (fields text).name.length < aclNameLen

/-- Each line of a reply is right in the lists that those before it have left. -/
def RepliesRight : Lists → List (Attr × Option Bytes) → Prop
  | _, [] => True
  | lists, (attr, val) :: lines =>
      LineRight attr val lists ∧ RepliesRight (authExternal attr val lists).2 lines

def RepliesFit : Lists → List (Attr × Option Bytes) → Prop
  | _, [] => True
  | lists, (attr, val) :: lines =>
      LineFits attr val lists ∧ RepliesFit (authExternal attr val lists).2 lines

section Insertion

theorem insert_eq_some {duplicates : Bool} {acl : Acl} {list list' : List Acl}
    (inserted : insert duplicates acl list = some list') :
    ∃ before behind, list = before ++ behind ∧ list' = before ++ acl :: behind ∧
      (∀ a ∈ before, a.number < acl.number) ∧
      ∀ first rest, behind = first :: rest →
        acl.number ≤ first.number ∧ (duplicates = false → acl.number ≠ first.number) := by
  induction list generalizing list' with
  | nil =>
      obtain rfl := Option.some.inj inserted
      exact ⟨[], [], rfl, rfl, nofun, nofun⟩
  | cons first rest ih =>
      unfold insert at inserted
      split at inserted
      · next less =>
        obtain ⟨later, there, rfl⟩ := Option.map_eq_some_iff.mp inserted
        obtain ⟨before, behind, rfl, rfl, below, above⟩ := ih there
        refine ⟨first :: before, behind, rfl, rfl, ?_, above⟩
        intro a found
        rcases List.mem_cons.mp found with rfl | found
        · exact less
        · exact below a found
      · next least =>
        split at inserted
        · exact nomatch inserted
        · next other =>
          obtain rfl := Option.some.inj inserted
          refine ⟨[], first :: rest, rfl, rfl, nofun, ?_⟩
          intro first' rest' same
          cases same
          refine ⟨UInt16.not_lt.mp least, fun single equal => other ⟨equal.symm, single⟩⟩

/-- A list of numbers in order, with a new one at its place. -/
theorem pairwise_insert {R : UInt16 → UInt16 → Prop} {acl : Acl} {before behind : List Acl}
    (sorted : (before ++ behind).Pairwise fun a b => R a.number b.number)
    (below : ∀ a ∈ before, R a.number acl.number) (above : ∀ a ∈ behind, R acl.number a.number) :
    (before ++ acl :: behind).Pairwise fun a b => R a.number b.number := by
  obtain ⟨first, second, across⟩ := List.pairwise_append.mp sorted
  refine List.pairwise_append.mpr ⟨first, List.pairwise_cons.mpr ⟨above, second⟩, ?_⟩
  intro a found b other
  rcases List.mem_cons.mp other with rfl | other
  · exact below a found
  · exact across a found b other

theorem ordered_insert {duplicates : Bool} {acl : Acl} {list list' : List Acl}
    (sorted : list.Pairwise fun a b => a.number ≤ b.number)
    (inserted : insert duplicates acl list = some list') :
    list'.Pairwise (fun a b => a.number ≤ b.number) ∧
      (duplicates = false → list.Pairwise (fun a b => a.number ≠ b.number) →
        list'.Pairwise fun a b => a.number ≠ b.number) := by
  obtain ⟨before, behind, rfl, rfl, below, above⟩ := insert_eq_some inserted
  have behind_sorted := (List.pairwise_append.mp sorted).2.1
  have least : ∀ a ∈ behind, acl.number ≤ a.number := by
    intro a found
    cases behind with
    | nil => exact absurd found List.not_mem_nil
    | cons first rest =>
        have here := (above first rest rfl).1
        rcases List.mem_cons.mp found with rfl | later
        · exact here
        · exact UInt16.le_trans here ((List.pairwise_cons.mp behind_sorted).1 a later)
  refine ⟨pairwise_insert sorted (fun a found => UInt16.le_of_lt (below a found)) least, ?_⟩
  intro single distinct
  refine pairwise_insert distinct (fun a found => UInt16.ne_of_lt (below a found)) ?_
  intro a found same
  cases behind with
  | nil => exact absurd found List.not_mem_nil
  | cons first rest =>
      obtain ⟨here, other⟩ := above first rest rfl
      rcases List.mem_cons.mp found with rfl | later
      · exact other single same
      · have next := (List.pairwise_cons.mp behind_sorted).1 a later
        rw [← same] at next
        exact other single (UInt16.le_antisymm here next)

/-- A sorted list takes an entry if it may have its number twice, or does not have it yet. -/
theorem insert_isSome_iff {duplicates : Bool} {acl : Acl} {list : List Acl}
    (sorted : list.Pairwise fun a b => a.number ≤ b.number) :
    (insert duplicates acl list).isSome = true ↔
      duplicates = true ∨ ∀ a ∈ list, a.number ≠ acl.number := by
  induction list with
  | nil => simp [insert]
  | cons first rest ih =>
      obtain ⟨least, later⟩ := List.pairwise_cons.mp sorted
      rw [List.forall_mem_cons]
      unfold insert
      split
      · next less =>
        rw [Option.isSome_map, ih later]
        exact or_congr_right (and_iff_right (UInt16.ne_of_lt less)).symm
      · next great =>
        split
        · next twice => simp [twice]
        · next once =>
          refine iff_of_true rfl ?_
          cases duplicates with
          | true => exact .inl rfl
          | false =>
              have other : first.number ≠ acl.number := fun same => once ⟨same, rfl⟩
              refine .inr ⟨other, fun a found same => ?_⟩
              have below := least a found
              rw [same] at below
              exact other (UInt16.le_antisymm below (UInt16.not_lt.mp great))

end Insertion

section Lines

variable {attr : Attr} {val : Option Bytes} {lists : Lists}

theorem target_slot {slot : Slot} {acl1 : Option Bytes}
    (found : target attr val = .ok (slot, acl1)) (table : attr = .table ∨ attr = .table_static) :
    slot = .acl_table := by
  unfold target at found
  rcases table with rfl | rfl
  · cases found
    rfl
  · cases found
    rfl

theorem target_error {outcome : Outcome} (error : target attr val = .error outcome) :
    outcome ≠ .stored ∧ (outcome = .crashed ↔ (attr = .filter ∨ attr = .limit) ∧ val = none) := by
  unfold target at error
  cases attr with
  | rule | pipe | queue | table | table_static => exact nomatch error
  | filter =>
      cases val with
      | none =>
          cases error
          exact ⟨nofun, by simp⟩
      | some val =>
          dsimp only at error
          split at error
          · cases error
            exact ⟨nofun, by simp⟩
          · exact nomatch error
  | limit =>
      cases val with
      | none =>
          cases error
          exact ⟨nofun, by simp⟩
      | some val =>
          dsimp only at error
          split at error
          · exact nomatch error
          · split at error
            · exact nomatch error
            · cases error
              exact ⟨nofun, by simp⟩

inductive Done (attr : Attr) (val : Option Bytes) (lists : Lists) : Outcome × Lists → Prop
  | crashed (missing : (attr = .filter ∨ attr = .limit) ∧ val = none) :
      Done attr val lists (.crashed, lists)
  | rejected (reason : Reject) : Done attr val lists (.rejected reason, lists)
  | stored {slot : Slot} {text : Bytes} {list : List Acl} {c : UInt8} {rule : Bytes}
      (found : target attr val = .ok (slot, some text))
      (positive : 0 < int (atol (strsep hash (strsep equals text).1).1))
      (cut : (strsep equals text).2 = some (c :: rule))
      (inserted : insert (attr = .table ∨ attr = .table_static)
        (newAcl attr (int (atol (strsep hash (strsep equals text).1).1))
          (strsep hash (strsep equals text).1).2 (c :: rule)) (lists slot) = some list) :
      Done attr val lists (.stored, Function.update lists slot list)

theorem authExternal_done (attr : Attr) (val : Option Bytes) (lists : Lists) :
    Done attr val lists (authExternal attr val lists) := by
  unfold authExternal
  split
  · next outcome error =>
    have spec := target_error error
    cases outcome with
    | stored => exact absurd rfl spec.1
    | rejected reason => exact .rejected reason
    | crashed => exact .crashed (spec.2.mp rfl)
  · exact .rejected _
  · next slot text found =>
    dsimp only
    split
    · exact .rejected _
    next positive =>
    split
    · exact .rejected _
    · exact .rejected _
    next c rule cut =>
    split
    · exact .rejected _
    · next list inserted =>
      exact @Done.stored attr val lists slot text list c rule found (Int.not_le.mp positive) cut
        inserted

/-- What is stored has passed the tests, in lists that are sorted. -/
theorem stored_iff (ordered : Ordered lists) {slot : Slot} {text : Bytes}
    (found : target attr val = .ok (slot, some text)) :
    (authExternal attr val lists).1 = .stored ↔ Passes attr text (lists slot) := by
  unfold authExternal
  rw [found]
  dsimp only
  by_cases positive : int (atol (strsep hash (strsep equals text).1).1) ≤ 0
  · rw [if_pos positive]
    exact iff_of_false nofun fun passes => absurd passes.number (Int.not_lt.mpr positive)
  · rw [if_neg positive]
    cases cut : (strsep equals text).2 with
    | none => exact iff_of_false nofun fun passes => passes.rule.1 cut
    | some acl3 =>
        cases acl3 with
        | nil => exact iff_of_false nofun fun passes => passes.rule.2 cut
        | cons c rule =>
            let acl := newAcl attr (lineNumber text) (strsep hash (strsep equals text).1).2 (c :: rule)
            have takes := @insert_isSome_iff (attr = .table ∨ attr = .table_static) acl _
              (ordered slot).1
            have new : (insert (attr = .table ∨ attr = .table_static) acl (lists slot)).isSome = true ↔
                Passes attr text (lists slot) := by
              rw [takes, decide_eq_true_eq, or_assoc]
              have passes : Passes attr text (lists slot) ↔ attr = .table ∨ attr = .table_static ∨
                  ∀ acl ∈ lists slot, acl.number ≠ UInt16.ofNat (lineNumber text).toNat :=
                ⟨fun passes => passes.new, fun new =>
                  ⟨Int.not_le.mp positive, ⟨by simp [cut], by simp [cut]⟩, new⟩⟩
              rw [passes]
              by_cases static : attr = .table_static
              · simp [static]
              · have number : acl.number = UInt16.ofNat (lineNumber text).toNat := if_neg static
                rw [number]
            rw [← new]
            change (match insert (attr = .table ∨ attr = .table_static) acl (lists slot) with
              | none => (.rejected .duplicateAcl, lists)
              | some list => (.stored, Function.update lists slot list) : Outcome × Lists).1 =
                .stored ↔ _
            cases insert (attr = .table ∨ attr = .table_static) acl (lists slot) with
            | none => exact iff_of_false nofun nofun
            | some list => exact iff_of_true rfl rfl

theorem ordered_authExternal (ordered : Ordered lists) :
    Ordered (authExternal attr val lists).2 := by
  have done := authExternal_done attr val lists
  generalize authExternal attr val lists = result at done ⊢
  cases done with
  | crashed missing => exact ordered
  | rejected reason => exact ordered
  | @stored slot text list c rule found positive cut inserted =>
      intro other
      dsimp only
      by_cases here : other = slot
      · subst here
        rw [Function.update_self]
        have kept := ordered_insert (ordered other).1 inserted
        refine ⟨kept.1, fun single => kept.2 ?_ ((ordered other).2 single)⟩
        rw [decide_eq_false_iff_not]
        exact fun table => single (target_slot found table)
      · rw [Function.update_of_ne here]
        exact ordered other

theorem decimal_ne_zero {text : Bytes} (positive : 0 < int (atol text)) : decimal text ≠ 0 := by
  intro zero
  unfold int atol at positive
  rw [zero] at positive
  exact absurd positive (by decide)

/-- The number that is stored is the one of the line if and only if it fits. -/
theorem newAcl_number_iff {text : Bytes} (acl2 : Option Bytes) (acl3 : Bytes)
    (positive : 0 < int (atol text)) :
    ((if attr = .table_static then (newAcl attr (int (atol text)) acl2 acl3).real_number
      else (newAcl attr (int (atol text)) acl2 acl3).number).toNat : Int) = decimal text ↔
    0 < decimal text ∧ decimal text < 65536 := by
  have number : (if attr = .table_static then (newAcl attr (int (atol text)) acl2 acl3).real_number
      else (newAcl attr (int (atol text)) acl2 acl3).number) =
        UInt16.ofNat (int (atol text)).toNat := by
    unfold newAcl
    dsimp only
    by_cases static : attr = .table_static
    · rw [if_pos static, if_pos static]
    · rw [if_neg static, if_neg static]
  rw [number, UInt16.toNat_ofNat']
  constructor
  · intro same
    have nonzero := decimal_ne_zero positive
    omega
  · rintro ⟨positive', small⟩
    rw [int_atol (Int.le_of_lt positive') (by omega)]
    omega

theorem hasFields_newAcl_iff {text : Bytes} {c : UInt8} {rule : Bytes}
    (positive : 0 < int (atol (strsep hash (strsep equals text).1).1))
    (cut : (strsep equals text).2 = some (c :: rule)) :
    HasFields attr (newAcl attr (int (atol (strsep hash (strsep equals text).1).1))
      (strsep hash (strsep equals text).1).2 (c :: rule)) (fields text) ↔
    0 < (fields text).number ∧ (fields text).number < 65536 ∧
      (fields text).name.length < aclNameLen := by
  have number := @newAcl_number_iff attr (strsep hash (strsep equals text).1).1
    (strsep hash (strsep equals text).1).2 (c :: rule) positive
  have short (name : Bytes) : name.take (aclNameLen - 1) = name ↔ name.length < aclNameLen := by
    rw [List.take_eq_self_iff]
    exact Nat.lt_succ_iff.symm
  constructor
  · intro has
    obtain ⟨positive', small⟩ := number.mp has.number
    exact ⟨positive', small, (short _).mp has.name⟩
  · rintro ⟨positive', small, name⟩
    refine ⟨number.mpr ⟨positive', small⟩, (short _).mpr name, ?_⟩
    unfold newAcl fields
    dsimp only
    rw [cut]
    rfl

/-- An entry that has been inserted is told by the list before. -/
theorem eq_of_inserted {a b : Acl} {before behind before' behind' : List Acl}
    (same : before ++ behind = before' ++ behind')
    (inserted : before ++ a :: behind = before' ++ b :: behind') : a = b := by
  have first := congrArg (List.count a) inserted
  have rest := congrArg (List.count a) same
  rw [List.count_append, List.count_append, List.count_cons_self, List.count_cons] at first
  rw [List.count_append, List.count_append] at rest
  by_contra other
  rw [if_neg (by rw [beq_iff_eq]; exact fun same => other same.symm)] at first
  omega

/-- A line is right if and only if what it stores fits the entry. -/
theorem lineRight_iff (ordered : Ordered lists) :
    LineRight attr val lists ↔ LineFits attr val lists := by
  have kept := @ordered_authExternal attr val lists ordered
  have done := authExternal_done attr val lists
  constructor
  · intro right
    have grown := right.grown
    have survives := right.survives
    refine ⟨fun cut missing => ?_, fun slot text found stored => ?_⟩
    · apply survives
      subst missing
      unfold authExternal target
      rcases cut with rfl | rfl <;> rfl
    · replace stored := (stored_iff ordered found).mpr stored
      obtain ⟨slot', text', acl, before, behind, found', list, after, has⟩ := grown stored
      rw [found] at found'
      cases found'
      generalize authExternal attr val lists = result at done stored after
      cases done with
      | crashed missing => exact nomatch stored
      | rejected reason => exact nomatch stored
      | @stored slot' text' list' c rule found' positive cut inserted =>
          rw [found] at found'
          cases found'
          have lists' : list' = before ++ acl :: behind := by
            have at_slot := congrFun after slot
            dsimp only at at_slot
            rw [Function.update_self, Function.update_self] at at_slot
            exact at_slot
          obtain ⟨before', behind', old, new, -, -⟩ := insert_eq_some inserted
          have same := eq_of_inserted (list.symm.trans old) (lists'.symm.trans new)
          rw [same] at has
          exact (hasFields_newAcl_iff positive cut).mp has
  · intro fits
    have room := fits.room
    refine ⟨kept, ?_, ?_, ?_⟩
    · generalize authExternal attr val lists = result at done
      intro other
      cases done with
      | crashed missing => rfl
      | rejected reason => rfl
      | stored found positive cut inserted => exact absurd rfl other
    · intro stored
      have passes := fun slot text found => (@stored_iff attr val lists ordered slot text found).mp stored
      generalize authExternal attr val lists = result at done stored
      cases done with
      | crashed missing => exact nomatch stored
      | rejected reason => exact nomatch stored
      | @stored slot text list c rule found positive cut inserted =>
          obtain ⟨before, behind, old, rfl, -, -⟩ := insert_eq_some inserted
          exact ⟨slot, text, _, before, behind, found, old, rfl,
            (hasFields_newAcl_iff positive cut).mpr (room slot text found (passes slot text found))⟩
    · generalize authExternal attr val lists = result at done
      intro crashed
      cases done with
      | crashed missing => exact fits.present missing.1 missing.2
      | rejected reason => exact nomatch crashed
      | stored found positive cut inserted => exact nomatch crashed

/-- The lines of a reply are right if and only if what each stores fits the entry. -/
theorem repliesRight_iff (lists : Lists) (lines : List (Attr × Option Bytes))
    (ordered : Ordered lists) : RepliesRight lists lines ↔ RepliesFit lists lines := by
  induction lines generalizing lists with
  | nil => exact Iff.rfl
  | cons line lines ih =>
      exact and_congr (lineRight_iff ordered) (ih _ (ordered_authExternal ordered))

def noLists : Lists := fun _ => []

theorem ordered_noLists : Ordered noLists := fun _ => ⟨List.Pairwise.nil, fun _ => List.Pairwise.nil⟩

/-- `MPD_RULE:2#n=a` and `MPD_RULE:1=b`. -/
theorem repliesRight_two :
    RepliesRight noLists
      [(.rule, some [50, 35, 110, 61, 97]), (.rule, some [49, 61, 98])] := by
  refine (repliesRight_iff noLists _ ordered_noLists).mpr ⟨⟨by decide, ?_⟩, ⟨by decide, ?_⟩, trivial⟩
  · intro slot text found _
    cases found
    decide
  · intro slot text found _
    cases found
    decide

/-- `MPD_RULE:65537=a` becomes rule 1. -/
theorem not_repliesRight : ¬ ∀ lines, RepliesRight noLists lines := by
  intro always
  have right := (always [(.rule, some [54, 53, 53, 51, 55, 61, 97])]).1
  obtain ⟨slot, text, acl, before, behind, found, old, after, has⟩ := right.grown (by decide)
  cases found
  have empty : before = [] ∧ behind = [] := List.append_eq_nil_iff.mp old.symm
  obtain ⟨rfl, rfl⟩ := empty
  have stored := congrFun after .acl_rule
  rw [Function.update_self] at stored
  have number := has.number
  have here : acl.number.toNat = 1 := by
    have told := congrArg (List.map fun a : Acl => a.number.toNat) stored
    have told : [1] = [acl.number.toNat] := told
    exact (List.head_eq_of_cons_eq told).symm
  rw [if_neg nofun, here] at number
  exact absurd number (by decide)

end Lines

end Mpd.AclLists
