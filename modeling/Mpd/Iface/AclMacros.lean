import Mathlib.Data.List.TakeWhile
import Mpd.Iface.AclPools
import Mpd.Util.Strings

/-! `IfaceParseACL`: the macros in the text of an ACL are replaced by real numbers and addresses. -/

set_option autoImplicit false

namespace Mpd.AclMacros

open Strings
open AclPools (PoolEntry)

section Definitions

def aclLen : Nat := 256

def percent : UInt8 := 37
def space : UInt8 := 32
def letterA : UInt8 := 97

structure Ip4 where
  a : UInt8
  b : UInt8
  c : UInt8
  d : UInt8
  deriving DecidableEq, Repr

/-- The pools, and of `struct ifacestate` the name, the peer's address, and the own one with its
width. -/
structure Env where
  rule_pool : List PoolEntry
  pipe_pool : List PoolEntry
  queue_pool : List PoolEntry
  table_pool : List PoolEntry
  ifname : String
  peer_addr : Ip4
  self_addr : Ip4
  self_width : UInt8
  deriving DecidableEq, Repr

/-- `%d` of a number that is not negative. -/
def printNat (n : Nat) : Bytes := (Nat.toDigits 10 n).map fun c => UInt8.ofNat c.toNat

def printInt (n : Int) : Bytes := if n < 0 then 45 :: printNat n.natAbs else printNat n.natAbs

def u_addrtoa (addr : Ip4) : Bytes :=
  printNat addr.a.toNat ++ 46 :: printNat addr.b.toNat ++ 46 :: printNat addr.c.toNat ++
    46 :: printNat addr.d.toNat

def u_rangetoa (addr : Ip4) (width : UInt8) : Bytes :=
  u_addrtoa addr ++ 47 :: printNat width.toNat

def ifaceFindACL (ap : List PoolEntry) (ifname : String) (number : Int) : Int :=
  match ap.find? fun rp => (rp.acl_number.toNat : Int) = number ∧ rp.ifname = ifname with
  | some rp => rp.real_number.toNat
  | none => -1

def Env.pool (env : Env) (t : UInt8) : List PoolEntry :=
  if t = 114 then env.rule_pool
  else if t = 112 then env.pipe_pool
  else if t = 113 then env.queue_pool
  else if t = 116 then env.table_pool
  else []

def replacement (env : Env) (t : UInt8) (num : Int) : Bytes :=
  if t = letterA ∧ num = 1 then u_addrtoa env.peer_addr
  else if t = letterA ∧ num = 2 then u_rangetoa env.self_addr env.self_width
  else printInt (ifaceFindACL (env.pool t) env.ifname num)

def scanMacro : Bytes → Option (UInt8 × Int)
  | [] => none
  | t :: rest =>
      let text := rest.dropWhile isSpace
      let sign := text.headD 0
      let digits := (if sign = 45 ∨ sign = 43 then text.tail else text).takeWhile isDigit
      if digits = [] then none else some (t, int (atol rest))

/-- `strlcpy` and `snprintf` into a buffer of `ACL_LEN`. -/
def cut (text : Bytes) : Bytes := text.take (aclLen - 1)

/-- The loop of `IfaceParseACL`; nothing where it does not come to an end. -/
def parseLoop (env : Env) : Nat → Bytes → Option Bytes
  | 0, _ => none
  | rounds + 1, buf =>
      match strsep percent buf with
      | (_, none) => some buf
      | (begin_, some rest) =>
          let (param, end_) := strsep space rest
          match scanMacro param, end_ with
          | none, none => some begin_
          | none, some _ => parseLoop env rounds begin_
          | some (t, num), none => some (cut (begin_ ++ replacement env t num))
          | some (t, num), some behind =>
              parseLoop env rounds (cut (begin_ ++ replacement env t num ++ space :: behind))

/-- `IfaceParseACL`. Each round but the last one takes a `%` away. -/
def ifaceParseACL (env : Env) (src : Bytes) : Option Bytes :=
  parseLoop env ((cut src).count percent + 1) (cut src)

/-- The macro behind a `%`: its letter, its digits, and what follows. -/
def macroAt : Bytes → Option (UInt8 × Bytes × Bytes)
  | [] => none
  | t :: rest =>
      let digits := rest.takeWhile isDigit
      let number := numeral digits
      if digits ≠ [] ∧ (t = 114 ∨ t = 112 ∨ t = 113 ∨ t = 116 ∨
          t = letterA ∧ (number = 1 ∨ number = 2)) then
        some (t, digits, rest.drop digits.length)
      else none

theorem macroAt_length {text digits behind : Bytes} {t : UInt8}
    (found : macroAt text = some (t, digits, behind)) : behind.length < text.length := by
  unfold macroAt at found
  split at found
  · cases found
  · dsimp only at found
    split at found
    · cases found
      rw [List.length_drop, List.length_cons]
      omega
    · cases found

/-- The expansion of a text: all macros are replaced. -/
def expand (env : Env) : Bytes → Bytes
  | [] => []
  | c :: rest =>
      if c = percent then
        match _found : macroAt rest with
        | none => c :: expand env rest
        | some (t, digits, behind) => replacement env t (numeral digits) ++ expand env behind
      else c :: expand env rest
  termination_by text => text.length
  decreasing_by
    · exact Nat.lt_succ_self _
    · exact Nat.lt_succ_of_lt (macroAt_length _found)
    · exact Nat.lt_succ_self _

/-- A number is allocated as the one that `sscanf` makes of its digits. -/
def SameNumber (env : Env) (t : UInt8) (digits : Bytes) : Prop :=
  replacement env t (int (atol digits)) = replacement env t (numeral digits)

/-- Each `%` starts a macro, with a space or nothing behind it. -/
def MacrosEnd (env : Env) : Bytes → Prop
  | [] => True
  | c :: rest =>
      if c = percent then
        match _found : macroAt rest with
        | none => False
        | some (t, digits, behind) =>
            SameNumber env t digits ∧ (behind = [] ∨ behind.head? = some space) ∧
              MacrosEnd env behind
      else MacrosEnd env rest
  termination_by text => text.length
  decreasing_by
    · exact Nat.lt_succ_of_lt (macroAt_length _found)
    · exact Nat.lt_succ_self _

/-- The text before the first macro, and the macro, where a space ends it. -/
def firstMacro (text : Bytes) : Option (Bytes × UInt8 × Bytes × Bytes) :=
  let front := text.takeWhile (· != percent)
  match macroAt (text.drop (front.length + 1)) with
  | some (t, digits, c :: behind) => if c = space then some (front, t, digits, behind) else none
  | _ => none

theorem firstMacro_length {text front digits behind : Bytes} {t : UInt8}
    (found : firstMacro text = some (front, t, digits, behind)) : behind.length < text.length := by
  unfold firstMacro at found
  dsimp only at found
  split at found
  · next _ _ _ _ found' =>
    split at found
    · cases found
      have less := macroAt_length found'
      rw [List.length_cons, List.length_drop] at less
      omega
    · exact nomatch found
  · exact nomatch found

/-- What is left of a text where the texts on the way to its expansion are cut. `spent` bytes are
before it, and each macro is replaced before the text behind it is cut again. -/
def kept (env : Env) (spent : Nat) (text : Bytes) : Bytes :=
  match found : firstMacro (text.take (aclLen - 1 - spent)) with
  | none => text.take (aclLen - 1 - spent)
  | some (front, t, digits, behind) =>
      front ++ percent :: t :: digits ++ space ::
        kept env (spent + front.length + (replacement env t (numeral digits)).length + 1) behind
  termination_by text.length
  decreasing_by
    exact Nat.lt_of_lt_of_le (firstMacro_length found) (List.length_take_le' _ _)

/-- The text comes out with all its macros replaced. -/
def ParsesRight (env : Env) (src : Bytes) : Prop := ifaceParseACL env src = some (expand env src)

/-- The expansion fits into `ACL_LEN`. -/
def Fits (env : Env) (src : Bytes) : Prop := (expand env src).length < aclLen

/-- The macros in what is kept of the text end where they should, and it has the same expansion. -/
def MacrosFit (env : Env) (src : Bytes) : Prop :=
  MacrosEnd env (kept env 0 src) ∧ cut (expand env (kept env 0 src)) = expand env src

end Definitions

section Macros

variable {env : Env} {t : UInt8} {digits behind text : Bytes}

def Letter (t : UInt8) (number : Nat) : Prop :=
  t = 114 ∨ t = 112 ∨ t = 113 ∨ t = 116 ∨ t = letterA ∧ (number = 1 ∨ number = 2)

structure IsNumber (digits behind : Bytes) : Prop where
  nonempty : digits ≠ []
  digits : ∀ c ∈ digits, isDigit c = true
  ends : ∀ c rest, behind = c :: rest → isDigit c = false

structure IsMacro (t : UInt8) (digits behind : Bytes) : Prop where
  letter : Letter t (numeral digits)
  number : IsNumber digits behind

theorem IsNumber.takeWhile (valid : IsNumber digits behind) :
    (digits ++ behind).takeWhile isDigit = digits := by
  rw [List.takeWhile_append_of_pos valid.digits]
  cases behind with
  | nil => rw [List.takeWhile_nil, List.append_nil]
  | cons c rest =>
      rw [List.takeWhile_cons_of_neg (by rw [valid.ends c rest rfl]; exact Bool.false_ne_true),
        List.append_nil]

theorem macroAt_of_isMacro (valid : IsMacro t digits behind) :
    macroAt (t :: (digits ++ behind)) = some (t, digits, behind) := by
  unfold macroAt
  dsimp only
  rw [valid.number.takeWhile, if_pos ⟨valid.number.nonempty, valid.letter⟩, List.drop_left]

theorem isNumber_takeWhile {text : Bytes} (nonempty : text.takeWhile isDigit ≠ []) :
    IsNumber (text.takeWhile isDigit) (text.dropWhile isDigit) := by
  refine ⟨nonempty, fun c found => List.mem_takeWhile_imp found, ?_⟩
  intro c later same
  have stopped := List.head?_dropWhile_not isDigit text
  rw [same] at stopped
  simpa using stopped

theorem drop_takeWhile (text : Bytes) :
    text.drop (text.takeWhile isDigit).length = text.dropWhile isDigit := by
  have parts := List.takeWhile_append_dropWhile (p := isDigit) (l := text)
  conv_lhs => arg 2; rw [← parts]
  rw [List.drop_left]

theorem isMacro_of_macroAt (found : macroAt text = some (t, digits, behind)) :
    text = t :: (digits ++ behind) ∧ IsMacro t digits behind := by
  unfold macroAt at found
  split at found
  · exact nomatch found
  · next t rest =>
    dsimp only at found
    rw [drop_takeWhile] at found
    split at found
    · next good =>
      cases found
      exact ⟨by rw [List.takeWhile_append_dropWhile], good.2, isNumber_takeWhile good.1⟩
    · exact nomatch found

/-- What is behind the end of a macro does not matter for it. -/
theorem macroAt_append {c : UInt8} (found : macroAt text = some (t, digits, c :: behind))
    (tail : Bytes) : macroAt (text ++ tail) = some (t, digits, c :: behind ++ tail) := by
  obtain ⟨rfl, valid⟩ := isMacro_of_macroAt found
  rw [List.cons_append, List.append_assoc]
  refine macroAt_of_isMacro ⟨valid.letter, valid.number.nonempty, valid.number.digits, ?_⟩
  intro d rest same
  cases same
  exact valid.number.ends c behind rfl

theorem expand_other {c : UInt8} {rest : Bytes} (other : c ≠ percent) :
    expand env (c :: rest) = c :: expand env rest := by
  rw [expand, if_neg other]

theorem expand_none (none : macroAt text = .none) :
    expand env (percent :: text) = percent :: expand env text := by
  rw [expand, if_pos rfl]
  split
  · rfl
  · next found =>
    rw [none] at found
    exact nomatch found

theorem expand_some (found : macroAt text = some (t, digits, behind)) :
    expand env (percent :: text) = replacement env t (numeral digits) ++ expand env behind := by
  rw [expand, if_pos rfl]
  split
  · next none =>
    rw [found] at none
    exact nomatch none
  · next found' =>
    rw [found] at found'
    cases found'
    rfl

theorem expand_append {front : Bytes} (clean : percent ∉ front) (rest : Bytes) :
    expand env (front ++ rest) = front ++ expand env rest := by
  induction front with
  | nil => rfl
  | cons c front ih =>
      obtain ⟨other, clean⟩ := not_or.mp (mt List.mem_cons.mpr clean)
      rw [List.cons_append, expand_other (Ne.symm other), ih clean, List.cons_append]

theorem expand_clean (clean : percent ∉ text) : expand env text = text := by
  have same : expand env (text ++ []) = text ++ expand env [] := expand_append clean []
  rwa [List.append_nil, expand, List.append_nil] at same

theorem macrosEnd_other {c : UInt8} {rest : Bytes} (other : c ≠ percent) :
    MacrosEnd env (c :: rest) ↔ MacrosEnd env rest := by
  rw [MacrosEnd, if_neg other]

theorem not_macrosEnd (none : macroAt text = .none) : ¬ MacrosEnd env (percent :: text) := by
  rw [MacrosEnd, if_pos rfl]
  split
  · exact id
  · next found =>
    rw [none] at found
    exact nomatch found

theorem macrosEnd_some (found : macroAt text = some (t, digits, behind)) :
    MacrosEnd env (percent :: text) ↔ SameNumber env t digits ∧
      (behind = [] ∨ behind.head? = some space) ∧ MacrosEnd env behind := by
  rw [MacrosEnd, if_pos rfl]
  split
  · next none =>
    rw [found] at none
    exact nomatch none
  · next found' =>
    rw [found] at found'
    cases found'
    rfl

theorem macrosEnd_append {front : Bytes} (clean : percent ∉ front) (rest : Bytes) :
    MacrosEnd env (front ++ rest) ↔ MacrosEnd env rest := by
  induction front with
  | nil => rfl
  | cons c front ih =>
      obtain ⟨other, clean⟩ := not_or.mp (mt List.mem_cons.mpr clean)
      rw [List.cons_append, macrosEnd_other (Ne.symm other), ih clean]

theorem macrosEnd_clean (clean : percent ∉ text) : MacrosEnd env text := by
  have same : MacrosEnd env (text ++ []) ↔ MacrosEnd env [] := macrosEnd_append clean []
  rw [List.append_nil] at same
  exact same.mpr (by rw [MacrosEnd]; trivial)

theorem firstMacro_clean (clean : percent ∉ text) : firstMacro text = none := by
  unfold firstMacro
  rw [takeWhile_clean clean]
  dsimp only
  rw [List.drop_of_length_le (Nat.le_succ _)]
  rfl

theorem firstMacro_append {front : Bytes} (clean : percent ∉ front) (rest : Bytes) :
    firstMacro (front ++ percent :: rest) =
      match macroAt rest with
      | some (t, digits, c :: behind) =>
          if c = space then some (front, t, digits, behind) else none
      | _ => none := by
  unfold firstMacro
  rw [takeWhile_token clean]
  dsimp only
  rw [List.drop_length_add_append]
  rfl

theorem kept_none {spent : Nat} (none : firstMacro (text.take (aclLen - 1 - spent)) = .none) :
    kept env spent text = text.take (aclLen - 1 - spent) := by
  rw [kept]
  split
  · rfl
  · next found =>
    rw [none] at found
    exact nomatch found

theorem kept_some (env : Env) {spent : Nat} {front : Bytes}
    (found : firstMacro (text.take (aclLen - 1 - spent)) = some (front, t, digits, behind)) :
    kept env spent text = front ++ percent :: t :: digits ++ space ::
      kept env (spent + front.length + (replacement env t (numeral digits)).length + 1) behind := by
  rw [kept]
  split
  · next none =>
    rw [found] at none
    exact nomatch none
  · next found' =>
    rw [found] at found'
    cases found'
    rfl

end Macros

section Replacements

variable {env : Env} {t : UInt8}

def Printed (c : UInt8) : Prop := isDigit c = true ∨ c = 45 ∨ c = 46 ∨ c = 47

theorem Printed.ne {c : UInt8} (printed : Printed c) : c ≠ percent ∧ c ≠ space := by
  constructor
  · rintro rfl
    exact absurd printed (by unfold Printed; decide)
  · rintro rfl
    exact absurd printed (by unfold Printed; decide)

theorem isDigit_printNat {n : Nat} : ∀ c ∈ printNat n, isDigit c = true := by
  intro c found
  obtain ⟨digit, member, rfl⟩ := List.mem_map.mp found
  have is_digit := Nat.isDigit_of_mem_toDigits (b := 10) (by decide) (by decide) member
  obtain ⟨low, high⟩ := (Bool.and_eq_true _ _).mp is_digit
  have low : 48 ≤ digit.toNat := of_decide_eq_true low
  have high : digit.toNat ≤ 57 := of_decide_eq_true high
  unfold isDigit
  rw [Bool.and_eq_true, decide_eq_true_eq, decide_eq_true_eq]
  rw [UInt8.le_iff_toNat_le, UInt8.le_iff_toNat_le, UInt8.toNat_ofNat']
  constructor
  · show 48 ≤ _
    omega
  · show _ ≤ 57
    omega

theorem printNat_cons (n : Nat) : ∃ c rest, printNat n = c :: rest ∧ isDigit c = true := by
  cases printed : printNat n with
  | nil =>
      have empty := List.map_eq_nil_iff.mp printed
      exact absurd empty Nat.toDigits_ne_nil
  | cons c rest =>
      exact ⟨c, rest, rfl, isDigit_printNat c (by rw [printed]; exact List.mem_cons_self)⟩

theorem printed_printNat {n : Nat} : ∀ c ∈ printNat n, Printed c :=
  fun c found => .inl (isDigit_printNat c found)

theorem printed_printInt {n : Int} : ∀ c ∈ printInt n, Printed c := by
  unfold printInt
  split
  · intro c found
    rcases List.mem_cons.mp found with rfl | later
    · exact .inr (.inl rfl)
    · exact printed_printNat c later
  · exact printed_printNat

theorem printed_u_addrtoa {addr : Ip4} : ∀ c ∈ u_addrtoa addr, Printed c := by
  have dot : Printed 46 := .inr (.inr (.inl rfl))
  have part (n : Nat) : ∀ c ∈ 46 :: printNat n, Printed c :=
    List.forall_mem_cons.mpr ⟨dot, printed_printNat⟩
  unfold u_addrtoa
  exact List.forall_mem_append.mpr ⟨List.forall_mem_append.mpr ⟨List.forall_mem_append.mpr
    ⟨printed_printNat, part _⟩, part _⟩, part _⟩

theorem printed_u_rangetoa {addr : Ip4} {width : UInt8} :
    ∀ c ∈ u_rangetoa addr width, Printed c := by
  have slash : Printed 47 := .inr (.inr (.inr rfl))
  exact List.forall_mem_append.mpr
    ⟨printed_u_addrtoa, List.forall_mem_cons.mpr ⟨slash, printed_printNat⟩⟩

theorem printed_replacement (env : Env) (t : UInt8) (num : Int) :
    ∀ c ∈ replacement env t num, Printed c := by
  unfold replacement
  split
  · exact printed_u_addrtoa
  · split
    · exact printed_u_rangetoa
    · exact printed_printInt

theorem percent_not_mem_replacement (env : Env) (t : UInt8) (num : Int) :
    percent ∉ replacement env t num :=
  fun found => (printed_replacement env t num percent found).ne.1 rfl

/-- A number starts with a digit, or it is -1. -/
theorem ifaceFindACL_cases (ap : List PoolEntry) (ifname : String) (number : Int) :
    ifaceFindACL ap ifname number = -1 ∨ 0 ≤ ifaceFindACL ap ifname number := by
  unfold ifaceFindACL
  split
  · exact .inr (Int.natCast_nonneg _)
  · exact .inl rfl

/-- A number of more than 16 bits is not allocated. -/
theorem ifaceFindACL_great {ap : List PoolEntry} {ifname : String} {n : Nat} (great : 65536 ≤ n) :
    ifaceFindACL ap ifname n = -1 := by
  unfold ifaceFindACL
  rw [List.find?_eq_none.mpr]
  intro rp _
  have := rp.acl_number.toNat_lt
  simp only [decide_eq_true_eq, not_and]
  omega

theorem printInt_nonneg {n : Int} (nonneg : 0 ≤ n) :
    ∃ c rest, printInt n = c :: rest ∧ isDigit c = true := by
  obtain ⟨c, rest, printed, digit⟩ := printNat_cons n.natAbs
  refine ⟨c, rest, ?_, digit⟩
  unfold printInt
  rw [if_neg (Int.not_lt.mpr nonneg), printed]

theorem u_addrtoa_cons (addr : Ip4) : ∃ c rest, u_addrtoa addr = c :: rest ∧ isDigit c = true := by
  obtain ⟨c, rest, printed, digit⟩ := printNat_cons addr.a.toNat
  refine ⟨c, rest ++ 46 :: printNat addr.b.toNat ++ 46 :: printNat addr.c.toNat ++
    46 :: printNat addr.d.toNat, ?_, digit⟩
  unfold u_addrtoa
  rw [printed]
  rfl

/-- What a macro is replaced by is not empty. -/
theorem replacement_cons (env : Env) (t : UInt8) (num : Int) :
    ∃ c rest, replacement env t num = c :: rest ∧ Printed c := by
  cases same : replacement env t num with
  | cons c rest =>
      exact ⟨c, rest, rfl, printed_replacement env t num c
        (by rw [same]; exact List.mem_cons_self)⟩
  | nil =>
      exfalso
      unfold replacement at same
      split at same
      · obtain ⟨c, rest, printed, -⟩ := u_addrtoa_cons env.peer_addr
        rw [printed] at same
        exact nomatch same
      · split at same
        · obtain ⟨c, rest, printed, -⟩ := u_addrtoa_cons env.self_addr
          unfold u_rangetoa at same
          rw [printed] at same
          exact nomatch same
        · rcases ifaceFindACL_cases (env.pool t) env.ifname num with none | nonneg
          · rw [none] at same
            exact nomatch same
          · obtain ⟨c, rest, printed, -⟩ := printInt_nonneg nonneg
            rw [printed] at same
            exact nomatch same

end Replacements

section Numbers

variable {env : Env} {t : UInt8} {digits : Bytes}

theorem numeral_append (first second : Bytes) :
    numeral first ≤ numeral (first ++ second) := by
  have grows (second : Bytes) (n : Nat) :
      n ≤ second.foldl (fun n c => n * 10 + (c.toNat - 48)) n := by
    induction second generalizing n with
    | nil => exact Nat.le_refl _
    | cons c second ih =>
        rw [List.foldl_cons]
        refine Nat.le_trans ?_ (ih _)
        omega
  unfold numeral
  rw [List.foldl_append]
  exact grows second _

theorem isDigit_ne {c : UInt8} (digit : isDigit c = true) :
    isSpace c = false ∧ c ≠ 45 ∧ c ≠ 43 ∧ c ≠ percent ∧ c ≠ space := by
  obtain ⟨low, high⟩ := (Bool.and_eq_true _ _).mp digit
  have low := UInt8.le_iff_toNat_le.mp (of_decide_eq_true low)
  have high := UInt8.le_iff_toNat_le.mp (of_decide_eq_true high)
  have low : 48 ≤ c.toNat := low
  have other {d : UInt8} (less : d.toNat < 48) : c ≠ d := by
    rintro rfl
    omega
  refine ⟨?_, other (by decide), other (by decide), other (by decide), other (by decide)⟩
  unfold isSpace
  rw [Bool.or_eq_false_iff, Bool.and_eq_false_iff]
  refine ⟨decide_eq_false (other (by decide)), .inr (decide_eq_false ?_)⟩
  rw [UInt8.le_iff_toNat_le]
  show ¬ c.toNat ≤ 13
  omega

theorem IsNumber.alone {behind : Bytes} (valid : IsNumber digits behind) : IsNumber digits [] :=
  ⟨valid.nonempty, valid.digits, nofun⟩

theorem IsNumber.clean {behind : Bytes} (valid : IsNumber digits behind) : space ∉ digits :=
  fun found => (isDigit_ne (valid.digits space found)).2.2.2.2 rfl

/-- A number has neither space nor sign before it. -/
theorem IsNumber.begins {behind : Bytes} (valid : IsNumber digits behind) :
    (digits ++ behind).dropWhile isSpace = digits ++ behind ∧
      ¬ ((digits ++ behind).headD 0 = 45 ∨ (digits ++ behind).headD 0 = 43) := by
  have nonempty := valid.nonempty
  cases digits with
  | nil => exact absurd rfl nonempty
  | cons d digits =>
      obtain ⟨no_space, no_minus, no_plus, -⟩ := isDigit_ne (valid.digits d List.mem_cons_self)
      constructor
      · exact List.dropWhile_cons_of_neg (by rw [no_space]; exact Bool.false_ne_true)
      · exact not_or.mpr ⟨no_minus, no_plus⟩

/-- The digits of a number are those that `sscanf` reads. -/
theorem decimal_eq {behind : Bytes} (valid : IsNumber digits behind) :
    decimal (digits ++ behind) = numeral digits := by
  obtain ⟨dropped, no_sign⟩ := valid.begins
  unfold decimal
  rw [dropped]
  dsimp only
  rw [if_neg no_sign, if_neg (not_or.mp no_sign).1, valid.takeWhile]

theorem decimal_digits {behind : Bytes} (valid : IsNumber digits behind) :
    decimal digits = numeral digits := by
  have read := decimal_eq valid.alone
  rwa [List.append_nil] at read

theorem scanMacro_eq {behind : Bytes} (t : UInt8) (valid : IsNumber digits behind) :
    scanMacro (t :: (digits ++ behind)) = some (t, int (atol digits)) := by
  have same : atol (digits ++ behind) = atol digits := by
    unfold atol
    rw [decimal_eq valid, decimal_digits valid]
  obtain ⟨dropped, no_sign⟩ := valid.begins
  unfold scanMacro
  dsimp only
  rw [same, dropped, if_neg no_sign, valid.takeWhile, if_neg valid.nonempty]

theorem strsep_digits {behind : Bytes} (letter : t ≠ space) (valid : IsNumber digits behind) :
    strsep space (t :: (digits ++ behind)) =
      (t :: (digits ++ (strsep space behind).1), (strsep space behind).2) := by
  have clean : space ∉ t :: digits := by
    intro found
    rcases List.mem_cons.mp found with same | later
    · exact letter same.symm
    · exact valid.clean later
  exact strsep_front clean behind

/-- The first string that `strsep` cuts off a macro is read as the macro. -/
theorem scanMacro_strsep {behind : Bytes} (letter : t ≠ space) (valid : IsNumber digits behind) :
    scanMacro (strsep space (t :: (digits ++ behind))).1 = some (t, int (atol digits)) := by
  rw [strsep_digits letter valid]
  apply scanMacro_eq
  refine ⟨valid.nonempty, valid.digits, ?_⟩
  intro c rest same
  cases behind with
  | nil => exact nomatch same
  | cons d behind =>
      have first : d = c := by
        unfold strsep at same
        dsimp only at same
        rw [List.takeWhile_cons] at same
        split at same
        · exact (List.cons.inj same).1
        · exact nomatch same
      rw [← first]
      exact valid.ends d behind rfl

theorem Letter.ne_space {n : Nat} (letter : Letter t n) : t ≠ space := by
  rintro rfl
  rcases letter with same | same | same | same | ⟨same, -⟩
  all_goals exact absurd same (by decide)

theorem Letter.of_ne {n m : Nat} (letter : Letter t n) (other : t ≠ letterA) : Letter t m := by
  rcases letter with same | same | same | same | ⟨same, -⟩
  · exact .inl same
  · exact .inr (.inl same)
  · exact .inr (.inr (.inl same))
  · exact .inr (.inr (.inr (.inl same)))
  · exact absurd same other

theorem replacement_pool (env : Env) (other : t ≠ letterA) (n : Int) :
    replacement env t n = printInt (ifaceFindACL (env.pool t) env.ifname n) := by
  unfold replacement
  rw [if_neg (fun both => other both.1), if_neg (fun both => other both.1)]

/-- Where `sscanf` makes another number of the digits, none is allocated for them, but one for what
it makes of them. -/
theorem not_sameNumber {behind : Bytes} (valid : IsMacro t digits behind)
    (other : ¬ SameNumber env t digits) :
    t ≠ letterA ∧ 65536 ≤ numeral digits ∧
      ∃ c rest, replacement env t (int (atol digits)) = c :: rest ∧ isDigit c = true := by
  have read := decimal_digits valid.number
  have great : 2 ^ 31 ≤ numeral digits := by
    by_contra small
    apply other
    unfold SameNumber
    rw [int_atol (by omega) (by omega), read]
  have letter : t ≠ letterA := by
    rintro rfl
    rcases valid.letter with same | same | same | same | ⟨-, same⟩
    all_goals first | exact absurd same (by decide) | omega
  refine ⟨letter, by omega, ?_⟩
  have printed := replacement_pool env letter
  rcases ifaceFindACL_cases (env.pool t) env.ifname (int (atol digits)) with none | nonneg
  · exfalso
    apply other
    unfold SameNumber
    rw [printed, printed, none, ifaceFindACL_great (by omega)]
  · rw [printed]
    exact printInt_nonneg nonneg

/-- A number of more than 16 bits is replaced by -1. -/
theorem replacement_great (env : Env) {n : Nat} (letter : t ≠ letterA) (great : 65536 ≤ n) :
    ∃ rest, replacement env t n = 45 :: rest := by
  rw [replacement_pool env letter, ifaceFindACL_great great]
  exact ⟨_, rfl⟩

theorem replacement_a_zero (env : Env) : ∃ rest, replacement env letterA 0 = 45 :: rest := by
  have none : env.pool letterA = [] := rfl
  unfold replacement
  rw [if_neg (by decide), if_neg (by decide), none]
  exact ⟨_, rfl⟩

/-- An address starts with a digit. -/
theorem replacement_address (env : Env) {n : Nat} (letter : Letter letterA n) :
    ∃ c rest, replacement env letterA n = c :: rest ∧ isDigit c = true := by
  have small : n = 1 ∨ n = 2 := by
    rcases letter with same | same | same | same | ⟨-, small⟩
    all_goals first | exact small | exact absurd same (by decide)
  rcases small with rfl | rfl
  · exact u_addrtoa_cons env.peer_addr
  · obtain ⟨c, rest, printed, digit⟩ := u_addrtoa_cons env.self_addr
    refine ⟨c, rest ++ 47 :: printNat env.self_width.toNat, ?_, digit⟩
    show u_rangetoa env.self_addr env.self_width = _
    unfold u_rangetoa
    rw [printed]
    rfl

end Numbers

section Loop

variable {env : Env} {rounds : Nat}

theorem parseLoop_clean {buf : Bytes} (clean : percent ∉ buf) :
    parseLoop env (rounds + 1) buf = some buf := by
  rw [parseLoop, strsep_of_not_mem clean]

/-- One round of the loop, from the first `%` on. -/
theorem parseLoop_percent {front : Bytes} (clean : percent ∉ front) (rest : Bytes) :
    parseLoop env (rounds + 1) (front ++ percent :: rest) =
      match scanMacro (strsep space rest).1, (strsep space rest).2 with
      | none, none => some front
      | none, some _ => parseLoop env rounds front
      | some (t, num), none => some (cut (front ++ replacement env t num))
      | some (t, num), some behind =>
          parseLoop env rounds (cut (front ++ replacement env t num ++ space :: behind)) := by
  rw [parseLoop, strsep_append clean]

theorem cut_append {front : Bytes} (short : front.length ≤ aclLen - 1) (text : Bytes) :
    cut (front ++ text) = front ++ text.take (aclLen - 1 - front.length) := by
  unfold cut
  rw [List.take_append, List.take_of_length_le short]

/-- What is before the first `%` stays. -/
theorem prefix_of_parseLoop {front text result : Bytes} (clean : percent ∉ front)
    (short : front.length ≤ aclLen - 1)
    (parsed : parseLoop env rounds (front ++ text) = some result) : front <+: result := by
  induction rounds generalizing text with
  | zero => exact nomatch parsed
  | succ rounds ih =>
      rcases strsep_cases percent text with none | ⟨token, rest, rfl, token_clean⟩
      · rw [parseLoop_clean (List.not_mem_append clean none)] at parsed
        exact ⟨text, Option.some.inj parsed⟩
      · have begun : percent ∉ front ++ token := List.not_mem_append clean token_clean
        rw [← List.append_assoc, parseLoop_percent begun] at parsed
        split at parsed
        · exact ⟨token, Option.some.inj parsed⟩
        · exact ih parsed
        · rw [List.append_assoc, cut_append short] at parsed
          exact ⟨_, Option.some.inj parsed⟩
        · rw [List.append_assoc, List.append_assoc, cut_append short] at parsed
          exact ih parsed

variable {front rest tail : Bytes}

/-- The loop goes on with what the first macro is replaced by. -/
theorem parseLoop_replaced {t : UInt8} {num : Int} {result y : Bytes} (clean : percent ∉ front)
    (scanned : scanMacro (strsep space rest).1 = some (t, num))
    (parsed : parseLoop env (rounds + 1) (front ++ percent :: rest) = some result)
    (begins : y <+: replacement env t num ++ [space]) (room : (front ++ y).length ≤ aclLen - 1) :
    result = cut (front ++ replacement env t num) ∨ front ++ y <+: result := by
  rw [parseLoop_percent clean, scanned] at parsed
  cases behind : (strsep space rest).2 with
  | none =>
      rw [behind] at parsed
      exact .inl (Option.some.inj parsed).symm
  | some later =>
      rw [behind] at parsed
      right
      obtain ⟨more, same⟩ := begins
      have text :
          front ++ replacement env t num ++ space :: later = front ++ y ++ (more ++ later) := by
        calc front ++ replacement env t num ++ space :: later
            = front ++ (replacement env t num ++ [space]) ++ later := by simp
          _ = front ++ y ++ (more ++ later) := by rw [← same]; simp
      have y_clean : percent ∉ front ++ y := by
        rw [List.mem_append]
        refine not_or.mpr ⟨clean, fun found => ?_⟩
        have found : percent ∈ replacement env t num ++ [space] := by
          rw [← same]
          exact List.mem_append_left _ found
        rcases List.mem_append.mp found with inside | other
        · exact percent_not_mem_replacement env t num inside
        · exact absurd other (by decide)
      dsimp only at parsed
      rw [text, cut_append room] at parsed
      exact prefix_of_parseLoop y_clean room parsed

/-- The number of a macro only grows where more text follows. -/
theorem macroAt_longer {t : UInt8} {digits behind : Bytes} (valid : IsMacro t digits behind)
    (other : t ≠ letterA) (tail : Bytes) :
    ∃ digits' behind', macroAt (t :: (digits ++ behind) ++ tail) = some (t, digits', behind') ∧
      numeral digits ≤ numeral digits' := by
  have parts := List.takeWhile_append_dropWhile (p := isDigit) (l := digits ++ behind ++ tail)
  have longer : (digits ++ behind ++ tail).takeWhile isDigit =
      digits ++ (behind ++ tail).takeWhile isDigit := by
    rw [List.append_assoc]
    exact List.takeWhile_append_of_pos valid.number.digits
  have nonempty : (digits ++ behind ++ tail).takeWhile isDigit ≠ [] := by
    rw [longer]
    exact List.append_ne_nil_of_left_ne_nil valid.number.nonempty _
  refine ⟨(digits ++ behind ++ tail).takeWhile isDigit, (digits ++ behind ++ tail).dropWhile isDigit,
    ?_, ?_⟩
  · have found := macroAt_of_isMacro (t := t)
      ⟨valid.letter.of_ne other, isNumber_takeWhile nonempty⟩
    rwa [parts] at found
  · rw [longer]
    exact numeral_append _ _

/-- What `sscanf` reads as a macro, and what is one only with more digits behind it. -/
theorem scanMacro_of_none {t t' : UInt8} {num : Int} {digits' behind' : Bytes}
    (none : macroAt rest = .none) (scanned : scanMacro (strsep space rest).1 = some (t, num))
    (whole : macroAt (rest ++ tail) = some (t', digits', behind')) :
    t = letterA ∧ num = 0 ∧ t' = letterA := by
  obtain ⟨same, valid⟩ := isMacro_of_macroAt whole
  cases rest with
  | nil => exact nomatch scanned
  | cons r rest =>
      rw [List.cons_append] at same
      obtain ⟨rfl, follows⟩ := List.cons.inj same
      have letter := valid.letter.ne_space
      have begins : rest.takeWhile isDigit ≠ [] := by
        intro empty
        cases rest with
        | nil =>
            rw [strsep_of_not_mem (fun found => letter (List.mem_singleton.mp found).symm)] at scanned
            exact nomatch scanned
        | cons x rest =>
            obtain ⟨d, digits, rfl⟩ := List.exists_cons_of_ne_nil valid.number.nonempty
            obtain ⟨rfl, -⟩ := List.cons.inj follows
            rw [List.takeWhile_cons_of_pos (valid.number.digits x List.mem_cons_self)] at empty
            exact nomatch empty
      have number := isNumber_takeWhile begins
      have parts := List.takeWhile_append_dropWhile (p := isDigit) (l := rest)
      have read := scanMacro_strsep letter number
      rw [parts, scanned] at read
      obtain ⟨rfl, rfl⟩ := Prod.mk.inj (Option.some.inj read)
      have no_letter : ¬ Letter t (numeral (rest.takeWhile isDigit)) := by
        intro good
        have found := macroAt_of_isMacro ⟨good, number⟩
        rw [parts, none] at found
        exact nomatch found
      have is_a : t = letterA := by
        by_contra other
        exact no_letter (valid.letter.of_ne other)
      subst is_a
      have small : numeral digits' = 1 ∨ numeral digits' = 2 := by
        rcases valid.letter with same | same | same | same | ⟨-, small⟩
        all_goals first | exact small | exact absurd same (by decide)
      have grows : numeral (rest.takeWhile isDigit) ≤ numeral digits' := by
        have longer := valid.number.takeWhile
        rw [← follows, ← parts, List.append_assoc, List.takeWhile_append_of_pos number.digits] at longer
        rw [← longer]
        exact numeral_append _ _
      have zero : numeral (rest.takeWhile isDigit) = 0 := by
        have not_one : numeral (rest.takeWhile isDigit) ≠ 1 := fun one =>
          no_letter (.inr (.inr (.inr (.inr ⟨rfl, .inl one⟩))))
        have not_two : numeral (rest.takeWhile isDigit) ≠ 2 := fun two =>
          no_letter (.inr (.inr (.inr (.inr ⟨rfl, .inr two⟩))))
        omega
      have value := decimal_digits number
      rw [zero] at value
      refine ⟨rfl, ?_, rfl⟩
      rw [int_atol (by omega) (by omega), value]
      rfl

theorem expand_ne_space (env : Env) {c : UInt8} (other : c ≠ space) (text : Bytes) :
    ∃ x more, expand env (c :: text) = x :: more ∧ x ≠ space := by
  by_cases is_percent : c = percent
  · subst is_percent
    cases found : macroAt text with
    | none => exact ⟨percent, _, expand_none found, other⟩
    | some parts =>
        obtain ⟨t, digits, behind⟩ := parts
        obtain ⟨x, more, same, printed⟩ := replacement_cons env t (numeral digits)
        refine ⟨x, more ++ expand env behind, ?_, printed.ne.2⟩
        rw [expand_some found, same, List.cons_append]
  · exact ⟨c, _, expand_other is_percent, other⟩

/-- Where a macro is not one, or where other characters follow it, the result is another one. -/
theorem parseLoop_ne (clean : percent ∉ front)
    (short : (front ++ percent :: rest).length ≤ aclLen - 1)
    (fits : (front ++ expand env (percent :: (rest ++ tail))).length ≤ aclLen - 1)
    (bad : ∀ t digits behind, macroAt rest = some (t, digits, behind) →
      ¬ SameNumber env t digits ∨ ∃ c later, behind = c :: later ∧ c ≠ space) :
    parseLoop env rounds (front ++ percent :: rest) ≠
      some (front ++ expand env (percent :: (rest ++ tail))) := by
  intro parsed
  rw [List.length_append, List.length_cons] at short
  obtain ⟨x, more, first, -⟩ := expand_ne_space env (c := percent) (by decide) (rest ++ tail)
  cases rounds with
  | zero => exact nomatch parsed
  | succ rounds =>
      cases scanned : scanMacro (strsep space rest).1 with
      | none =>
          -- The text ends before the `%`.
          have stops : some front = some (front ++ expand env (percent :: (rest ++ tail))) := by
            rw [← parsed, parseLoop_percent clean, scanned]
            cases behind : (strsep space rest).2 with
            | none => rfl
            | some later =>
                rw [parseLoop_percent clean, scanned, behind] at parsed
                cases rounds with
                | zero => exact nomatch parsed
                | succ rounds => exact (parseLoop_clean clean).symm
          have length := congrArg List.length (Option.some.inj stops)
          rw [first, List.length_append, List.length_cons] at length
          omega
      | some read =>
          obtain ⟨t, num⟩ := read
          obtain ⟨w, later, replaced, printed⟩ := replacement_cons env t num
          -- The first byte of what the macro is replaced by.
          have byte : w = x := by
            have begins : [w] <+: replacement env t num ++ [space] := by
              rw [replaced]
              exact ⟨later ++ [space], rfl⟩
            have result := parseLoop_replaced clean scanned parsed begins
              (by rw [List.length_append, List.length_singleton]; omega)
            have ahead : front ++ [w] <+: front ++ expand env (percent :: (rest ++ tail)) := by
              rcases result with same | ahead
              · rw [same, cut_append (by omega), replaced,
                  show aclLen - 1 - front.length = aclLen - 2 - front.length + 1 by omega]
                exact List.prefix_append_right_inj _ |>.mpr ⟨_, rfl⟩
              · exact ahead
            rw [first] at ahead
            exact (List.cons_prefix_cons.mp ((List.prefix_append_right_inj _).mp ahead)).1
          subst byte
          cases whole : macroAt (rest ++ tail) with
          | none =>
              rw [expand_none whole] at first
              exact printed.ne.1 (List.cons.inj first).1.symm
          | some parts =>
              obtain ⟨t', digits', behind'⟩ := parts
              rw [expand_some whole] at first
              cases here : macroAt rest with
              | none =>
                  obtain ⟨rfl, rfl, rfl⟩ := scanMacro_of_none here scanned whole
                  obtain ⟨others, minus⟩ := replacement_a_zero env
                  obtain ⟨-, valid⟩ := isMacro_of_macroAt whole
                  obtain ⟨y, _, address, digit⟩ := replacement_address env valid.letter
                  rw [minus] at replaced
                  rw [address] at first
                  have same : y = 45 :=
                    (List.cons.inj first).1.trans (List.cons.inj replaced).1.symm
                  rw [same] at digit
                  exact absurd digit (by decide)
              | some parts =>
                  obtain ⟨t₁, digits, behind⟩ := parts
                  obtain ⟨rfl, valid⟩ := isMacro_of_macroAt here
                  have read := scanMacro_strsep valid.letter.ne_space valid.number
                  rw [scanned] at read
                  obtain ⟨rfl, rfl⟩ := Prod.mk.inj (Option.some.inj read)
                  by_cases same : SameNumber env t digits
                  · obtain ⟨c, others, rfl, other⟩ :=
                      (bad t digits behind here).resolve_left (not_not_intro same)
                    have found := macroAt_append here tail
                    rw [whole] at found
                    cases found
                    unfold SameNumber at same
                    obtain ⟨y, others', next, no_space⟩ :=
                      expand_ne_space env other (others ++ tail)
                    rw [expand_some whole, List.cons_append, next] at fits parsed
                    rw [List.length_append, List.length_append, List.length_cons] at fits
                    have result := parseLoop_replaced clean scanned parsed (List.prefix_refl _) (by
                      rw [same, List.length_append, List.length_append, List.length_singleton]
                      omega)
                    rw [same] at result
                    rcases result with stops | ahead
                    · rw [cut_append (by omega), List.take_of_length_le (by omega)] at stops
                      have length := congrArg List.length (List.append_cancel_left stops)
                      rw [List.length_append, List.length_cons] at length
                      omega
                    · have ahead := (List.prefix_append_right_inj _).mp
                        ((List.prefix_append_right_inj _).mp ahead)
                      exact no_space (List.cons_prefix_cons.mp ahead).1.symm
                  · obtain ⟨letter, great, d, others, number, digit⟩ := not_sameNumber valid same
                    obtain ⟨digits₂, behind₂, longer, grows⟩ := macroAt_longer valid letter tail
                    rw [whole] at longer
                    cases longer
                    obtain ⟨none, minus⟩ := replacement_great env letter (great.trans grows)
                    rw [minus] at first
                    rw [replaced] at number
                    have same : d = 45 :=
                      (List.cons.inj number).1.symm.trans (List.cons.inj first).1.symm
                    rw [same] at digit
                    exact absurd digit (by decide)

/-- What is kept of a text has the same first macro. -/
theorem kept_space (env : Env) {spent : Nat} {text front rest digits behind : Bytes} {t : UInt8}
    (clean : percent ∉ front)
    (begins : text.take (aclLen - 1 - spent) = front ++ percent :: rest)
    (found : macroAt rest = some (t, digits, space :: behind)) :
    ∃ text', kept env spent text = front ++ percent :: text' ∧
      macroAt text' = some (t, digits, space :: kept env
        (spent + front.length + (replacement env t (numeral digits)).length + 1) behind) := by
  have first := firstMacro_append clean rest
  rw [← begins, found] at first
  dsimp only at first
  rw [if_pos rfl] at first
  obtain ⟨-, valid⟩ := isMacro_of_macroAt found
  have same := kept_some env first
  rw [List.append_assoc, List.cons_append, List.cons_append] at same
  refine ⟨_, same, macroAt_of_isMacro ⟨valid.letter, valid.number.nonempty, valid.number.digits, ?_⟩⟩
  intro d more same
  obtain ⟨rfl, -⟩ := List.cons.inj same
  rfl

/-- The macros of a text do not end well where its first one does not. -/
theorem not_macrosEnd_kept {spent : Nat} {text front rest : Bytes} (clean : percent ∉ front)
    (begins : text.take (aclLen - 1 - spent) = front ++ percent :: rest)
    (bad : ∀ t digits behind, macroAt rest = some (t, digits, behind) →
      ¬ SameNumber env t digits ∨ ∃ c later, behind = c :: later ∧ c ≠ space) :
    ¬ MacrosEnd env (kept env spent text) := by
  have first := firstMacro_append clean rest
  rw [← begins] at first
  cases found : macroAt rest with
  | none =>
      rw [found] at first
      rw [kept_none first, begins, macrosEnd_append clean]
      exact not_macrosEnd found
  | some parts =>
      obtain ⟨t, digits, behind⟩ := parts
      have bad := bad t digits behind found
      rw [found] at first
      -- The first macro of what is kept.
      have whole (text' : Bytes) (same : kept env spent text = front ++ percent :: text')
          (behind' : Bytes) (found' : macroAt text' = some (t, digits, behind'))
          (ends : behind' = [] ∨ behind'.head? = some space → ¬ SameNumber env t digits) :
          ¬ MacrosEnd env (kept env spent text) := by
        rw [same, macrosEnd_append clean, macrosEnd_some found']
        rintro ⟨number, ended, -⟩
        exact ends ended number
      cases behind with
      | nil =>
          refine whole rest ((kept_none first).trans begins) [] found fun _ => ?_
          exact bad.resolve_right (by rintro ⟨c, later, same, -⟩; exact nomatch same)
      | cons c behind =>
          dsimp only at first
          by_cases ends : c = space
          · subst ends
            have number : ¬ SameNumber env t digits := by
              refine bad.resolve_right ?_
              rintro ⟨c, later, same, other⟩
              exact other (List.cons.inj same).1.symm
            obtain ⟨text', same, found'⟩ := kept_space env clean begins found
            exact whole text' same _ found' fun _ => number
          · rw [if_neg ends] at first
            refine whole rest ((kept_none first).trans begins) _ found ?_
            intro ended
            rcases ended with none | some
            · exact nomatch none
            · exact absurd (Option.some.inj some) ends

/-- The loop makes the expansion of a text if and only if the macros in what it keeps of it end as
they should, and that has the same expansion. -/
theorem parseLoop_iff (env : Env) (text : Bytes) {front tail : Bytes} {rounds : Nat}
    (clean : percent ∉ front) (short : front.length ≤ aclLen - 1)
    (enough : (cut (front ++ text)).count percent < rounds)
    (fits : (front ++ expand env (text ++ tail)).length ≤ aclLen - 1) :
    parseLoop env rounds (cut (front ++ text)) = some (front ++ expand env (text ++ tail)) ↔
      MacrosEnd env (kept env front.length text) ∧
        cut (front ++ expand env (kept env front.length text)) =
          front ++ expand env (text ++ tail) := by
  induction all_length : text.length using Nat.strongRecOn generalizing text front tail rounds with
  | ind size ih =>
  have parts := List.take_append_drop (aclLen - 1 - front.length) text
  have length := List.length_take_le (aclLen - 1 - front.length) text
  obtain ⟨rounds, rfl⟩ := Nat.exists_eq_succ_of_ne_zero (Nat.ne_of_gt (Nat.zero_lt_of_lt enough))
  rw [cut_append short] at enough ⊢
  have all : text ++ tail = text.take (aclLen - 1 - front.length) ++
      (text.drop (aclLen - 1 - front.length) ++ tail) := by
    rw [← List.append_assoc, parts]
  rw [all] at fits ⊢
  generalize text.drop (aclLen - 1 - front.length) ++ tail = behind_text at fits ⊢
  rcases strsep_cases percent (text.take (aclLen - 1 - front.length)) with
    none | ⟨token, rest, begins, token_clean⟩
  · have whole : percent ∉ front ++ text.take (aclLen - 1 - front.length) :=
      List.not_mem_append clean none
    rw [parseLoop_clean whole, kept_none (firstMacro_clean none), expand_clean none,
      cut_append short, List.take_take, Nat.min_self]
    constructor
    · intro same
      exact ⟨macrosEnd_clean none, Option.some.inj same⟩
    · intro both
      rw [both.2]
  · rw [begins] at enough fits length ⊢
    have begun : percent ∉ front ++ token := List.not_mem_append clean token_clean
    have room : (front ++ token ++ percent :: rest).length ≤ aclLen - 1 := by
      rw [List.append_assoc, List.length_append]
      omega
    have meant : front ++ expand env (token ++ percent :: rest ++ behind_text) =
        front ++ token ++ expand env (percent :: (rest ++ behind_text)) := by
      rw [List.append_assoc, expand_append token_clean, List.append_assoc, List.cons_append]
    rw [meant] at fits ⊢
    rw [← List.append_assoc] at enough ⊢
    by_cases bad : ∀ t digits behind, macroAt rest = some (t, digits, behind) →
        ¬ SameNumber env t digits ∨ ∃ c later, behind = c :: later ∧ c ≠ space
    · constructor
      · intro parsed
        exact absurd parsed (parseLoop_ne begun room fits bad)
      · intro both
        exact absurd both.1 (not_macrosEnd_kept token_clean begins bad)
    · push Not at bad
      obtain ⟨t, digits, behind, found, same, ends⟩ := bad
      obtain ⟨rfl, valid⟩ := isMacro_of_macroAt found
      have read := scanMacro_strsep valid.letter.ne_space valid.number
      have cuts := strsep_digits valid.letter.ne_space valid.number
      rw [parseLoop_percent begun, read, cuts]
      cases behind with
      | nil =>
          have nothing : strsep space [] = ([], none) := rfl
          rw [nothing]
          dsimp only
          rw [show replacement env t (int (atol digits)) = _ from same]
          have first := firstMacro_append token_clean (t :: (digits ++ []))
          rw [← begins, found] at first
          have expanded : expand env (token ++ percent :: (t :: (digits ++ []))) =
              token ++ replacement env t (numeral digits) := by
            rw [expand_append token_clean, expand_some found, expand, List.append_nil]
          rw [kept_none first, begins, expanded, ← List.append_assoc, macrosEnd_append token_clean,
            macrosEnd_some found]
          have ended : MacrosEnd env [] := by
            rw [MacrosEnd]
            trivial
          constructor
          · intro parsed
            exact ⟨⟨same, .inl rfl, ended⟩, Option.some.inj parsed⟩
          · intro both
            exact congrArg some both.2
      | cons c later =>
          obtain rfl := ends c later rfl
          have next : strsep space (space :: later) = ([], some later) :=
            strsep_append List.not_mem_nil later
          rw [next]
          dsimp only
          rw [show replacement env t (int (atol digits)) = _ from same]
          have longer := macroAt_append found behind_text
          obtain ⟨text', is_kept, found'⟩ := kept_space env token_clean begins found
          have no_percent := percent_not_mem_replacement env t (numeral digits)
          rw [expand_some longer, List.cons_append, expand_other (by decide)] at fits ⊢
          rw [is_kept, macrosEnd_append token_clean, macrosEnd_some found', expand_append token_clean,
            expand_some found', expand_other (by decide), macrosEnd_other (by decide)]
          generalize replacement env t (numeral digits) = value at fits no_percent ⊢
          -- The text before what is left, with the macro replaced.
          have shape (rest : Bytes) : front ++ token ++ value ++ [space] ++ rest =
              front ++ token ++ (value ++ space :: rest) := by
            simp
          have sum : (front ++ token ++ value ++ [space]).length =
              front.length + token.length + value.length + 1 := by
            simp only [List.length_append, List.length_singleton]
          have clean₂ : percent ∉ front ++ token ++ value ++ [space] := by
            simp only [List.mem_append, not_or]
            exact ⟨⟨⟨clean, token_clean⟩, no_percent⟩, by decide⟩
          have fits₂ : (front ++ token ++ value ++ [space] ++
              expand env (later ++ behind_text)).length ≤ aclLen - 1 := by
            rwa [shape]
          have short₂ : (front ++ token ++ value ++ [space]).length ≤ aclLen - 1 := by
            rw [List.length_append] at fits₂
            omega
          have fewer :
              (cut (front ++ token ++ value ++ [space] ++ later)).count percent < rounds := by
            have part : (cut (front ++ token ++ value ++ [space] ++ later)).count percent ≤
                (front ++ token ++ value ++ [space] ++ later).count percent :=
              (List.take_sublist _ _).count_le _
            rw [List.count_append, List.count_eq_zero.mpr clean₂] at part
            simp only [List.count_append, List.count_cons, beq_self_eq_true, if_true] at enough
            omega
          have less : later.length < size := by
            have inside := congrArg List.length begins
            have bounded := List.length_take_le' (aclLen - 1 - front.length) text
            simp only [List.length_append, List.length_cons] at inside
            omega
          have step := ih later.length less later clean₂ short₂ fewer fits₂ rfl
          rw [shape, shape, shape, sum] at step
          have text_shape : front ++ token ++ value ++ space :: later =
              front ++ token ++ (value ++ space :: later) := List.append_assoc _ _ _
          rw [text_shape, step, ← List.append_assoc front token]
          constructor
          · rintro ⟨ended, made⟩
            exact ⟨⟨same, .inr rfl, ended⟩, made⟩
          · rintro ⟨⟨-, -, ended⟩, made⟩
            exact ⟨ended, made⟩

end Loop

section Theorems

/-- A text whose expansion fits comes out expanded if and only if its macros fit. -/
theorem parsesRight_iff (env : Env) (src : Bytes) (fits : Fits env src) :
    ParsesRight env src ↔ MacrosFit env src := by
  have all : src ++ [] = src := List.append_nil src
  have parsed : ifaceParseACL env src = some (expand env (src ++ [])) ↔
      MacrosEnd env (kept env 0 src) ∧ cut (expand env (kept env 0 src)) = expand env (src ++ []) :=
    parseLoop_iff env src List.not_mem_nil (Nat.zero_le _) (Nat.lt_succ_self _)
      (by rw [all]; exact Nat.le_pred_of_lt fits)
  rwa [all] at parsed

def noAcls : Env := ⟨[], [], [], [], "", ⟨10, 0, 0, 1⟩, ⟨10, 0, 0, 2⟩, 32⟩

def pipeAndTable : Env :=
  { noAcls with
    pipe_pool := [⟨"ng0", 1, 10000⟩]
    table_pool := [⟨"ng0", 1, 32⟩]
    ifname := "ng0" }

/-- `%p1 %t1` comes out as `10000 32`. -/
theorem parsesRight_pipe :
    ifaceParseACL pipeAndTable [37, 112, 49, 32, 37, 116, 49] =
        some [49, 48, 48, 48, 48, 32, 51, 50] ∧
      MacrosFit pipeAndTable [37, 112, 49, 32, 37, 116, 49] := by
  have table : expand pipeAndTable (percent :: [116, 49]) = [51, 50] := by
    have found : macroAt [116, 49] = some (116, [49], []) := by decide
    rw [expand_some found, expand]
    decide +kernel
  have expanded : expand pipeAndTable (percent :: [112, 49, 32, 37, 116, 49]) =
      [49, 48, 48, 48, 48, 32, 51, 50] := by
    have found : macroAt [112, 49, 32, 37, 116, 49] = some (112, [49], [32, 37, 116, 49]) := by
      decide
    rw [expand_some found, expand_other (by decide)]
    change _ ++ 32 :: expand pipeAndTable (percent :: [116, 49]) = _
    rw [table]
    decide +kernel
  have parsed : ifaceParseACL pipeAndTable [37, 112, 49, 32, 37, 116, 49] =
      some [49, 48, 48, 48, 48, 32, 51, 50] := by
    decide +kernel
  have fits : Fits pipeAndTable (percent :: [112, 49, 32, 37, 116, 49]) := by
    unfold Fits
    rw [expanded]
    decide
  exact ⟨parsed, (parsesRight_iff _ _ fits).mp (parsed.trans (congrArg some expanded.symm))⟩

/-- `%p1)`: the parenthesis is lost. -/
theorem not_parsesRight : ¬ ∀ env src, Fits env src → ParsesRight env src := by
  intro always
  have expanded : expand noAcls [37, 112, 49, 41] = [45, 49, 41] := by
    have found : macroAt [112, 49, 41] = some (112, [49], [41]) := by decide
    have macro_first : expand noAcls (percent :: [112, 49, 41]) = _ := expand_some found
    refine macro_first.trans ?_
    rw [expand_other (by decide), expand]
    rfl
  have parsed : ifaceParseACL noAcls [37, 112, 49, 41] = some [45, 49] := by decide +kernel
  have right := always noAcls [37, 112, 49, 41] (by unfold Fits; rw [expanded]; decide)
  unfold ParsesRight at right
  rw [expanded, parsed] at right
  exact absurd right (by decide)

end Theorems

end Mpd.AclMacros
