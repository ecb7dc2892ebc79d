import Mathlib.Data.UInt
import Mathlib.Data.Fintype.Basic
import Mpd.Bund.Bloat

/-! `BundBmTimeout` and `BundCreateOpenLink` of `bund.c`: one step of the bandwidth management,
with the scans over the slots of the bundle as they are jumped through. -/

set_option autoImplicit false

namespace Mpd.Bandwidth

structure LinkStat where
  recvOctets : UInt64
  xmitOctets : UInt64

/-- A link in a slot. The LCP of one that has joined is opened. -/
structure SlotLink where
  state : FsmState
  joined_bund : Bool
  idleStats : LinkStat
  opened : joined_bund = true → state = .opened

/-- `struct bundbm`, whose arrays have `BUND_BM_N` places. -/
structure BmState where
  trafficIn : List UInt32
  trafficOut : List UInt32
  avail : List UInt32
  wasUp : List UInt8
  last_open : Int
  last_close : Int
  total_bw : UInt32

/-- What `LinkFind` gives. The LCP of a link that is not busy is in its initial state. -/
structure FoundLink where
  busy : Bool
  tmpl : Bool
  idleStats : LinkStat

/-- What does not hold in C: `links[]` read behind its end, and `assert`. -/
inductive Fault where
  | outOfBounds | assertion

section
variable (n : Nat)

structure BmConf where
  bm_S : UInt16
  bm_Hi : UInt16
  bm_Lo : UInt16
  bm_Mc : UInt16
  bm_Md : UInt16
  linkst : Fin n → String

structure BmBund where
  links : Fin n → Option SlotLink
  n_links : UInt16
  n_up : UInt16
  bm : BmState
  conf : BmConf n

/-- What a step finds: the time, the counters, the links by their names, and in which slots
a link can be created. `percent` stands for the arithmetic of floats. -/
structure BmWorld where
  now : Int
  stats : Fin n → LinkStat
  percent : UInt32 → UInt32 → UInt32
  linkFind : String → Option FoundLink
  linkInst : Fin n → Bool

inductive BmCall where
  | openLink (k : Fin n)
  | closeLink (k : Fin n)

end

section
variable {n : Nat}

def BmCall.isOpen : BmCall n → Bool
  | openLink _ => true
  | closeLink _ => false

/-- `memmove` by one and a new first element. -/
def shift {α : Type} (first : α) (samples : List α) : List α := first :: samples.dropLast

namespace BmBund

variable (env : BmWorld n) (b : BmBund n)

def recent (octets : LinkStat → UInt64) : UInt32 :=
  (List.finRange n).foldl (fun sum k => match b.links k with
    | some l => if l.joined_bund then
        (sum.toUInt64 + (octets (env.stats k) - octets l.idleStats)).toUInt32 else sum
    | none => sum) 0

/-- The first part of `BundBmTimeout`. -/
def updateStats : BmBund n :=
  { b with
    bm := { b.bm with
      wasUp := shift b.n_up.toUInt8 b.bm.wasUp
      avail := shift b.bm.total_bw b.bm.avail
      trafficIn := shift (b.recent env LinkStat.recvOctets) b.bm.trafficIn
      trafficOut := shift (b.recent env LinkStat.xmitOctets) b.bm.trafficOut }
    links := fun k => (b.links k).map fun l =>
      if l.joined_bund then { l with idleStats := env.stats k } else l }

def utilTotal (traffic : List UInt32) : UInt32 :=
  let availTotal := (b.bm.avail.map fun avail => avail * b.conf.bm_S.toUInt32 / 6).sum
  let bitsTotal := (traffic.map (· * 8)).sum
  if availTotal ≠ 0 then env.percent bitsTotal availTotal else 0

/-- It is time to bring up another link. -/
def raises : Bool :=
  env.now - b.bm.last_open ≥ b.conf.bm_Mc.toNat &&
    (b.utilTotal env b.bm.trafficIn ≥ b.conf.bm_Hi.toUInt32 ||
      b.utilTotal env b.bm.trafficOut ≥ b.conf.bm_Hi.toUInt32)

/-- It is time to bring down a link. -/
def lowers : Bool :=
  env.now - b.bm.last_close ≥ b.conf.bm_Md.toNat &&
    (b.utilTotal env b.bm.trafficIn < b.conf.bm_Lo.toUInt32 &&
      b.utilTotal env b.bm.trafficOut < b.conf.bm_Lo.toUInt32)

def wanted (k : Fin n) : Bool := (b.links k).isNone && b.conf.linkst k ≠ ""

/-- The link that `BundCreateOpenLink` would put into slot `k`. -/
def obtain? (k : Fin n) : Option SlotLink :=
  match env.linkFind (b.conf.linkst k) with
  | none => none
  | some lt =>
      if lt.busy then none
      else if lt.tmpl && !env.linkInst k then none
      else some ⟨.initial, false, lt.idleStats, nofun⟩

/-- `BundCreateOpenLink`, `none` for -1. -/
def bundCreateOpenLink (k : Fin n) : Option (BmBund n) :=
  match b.links k with
  | some _ => some b
  | none =>
      if b.conf.linkst k ≠ "" then
        (b.obtain? env k).map fun l =>
          { b with links := Function.update b.links k (some l), n_links := b.n_links + 1 }
      else none

/-- The scan for a link to open, from the label `cont` on. -/
def openScan (b : BmBund n) (k : Nat) : Except Fault (BmBund n × List (BmCall n)) :=
  if inside : k < n then
    if b.wanted ⟨k, inside⟩ then
      let b := { b with bm := { b.bm with last_open := env.now } }
      match b.bundCreateOpenLink env ⟨k, inside⟩ with
      | some b => .ok (b, [.openLink ⟨k, inside⟩])
      | none => openScan b (k + 1)
    else if k + 1 < n then openScan b (k + 1)
    else .ok (b, [])
  else .error .outOfBounds
  termination_by n - k

/-- The scan for a link to close, downwards from below `k`. -/
def closeScan (k : Nat) (inside : k ≤ n) : Option (Fin n) :=
  match k with
  | 0 => none
  | k + 1 =>
      if (b.links ⟨k, inside⟩).any (·.state.openState) then some ⟨k, inside⟩
      else closeScan k (Nat.le_of_succ_le inside)

def bundBmTimeout : Except Fault (BmBund n × List (BmCall n)) :=
  let b := b.updateStats env
  let lowers := b.lowers env
  match if b.raises env && 0 < n then b.openScan env 0 else .ok (b, []) with
  | .error fault => .error fault
  | .ok (b, calls) =>
      if lowers && 1 < b.n_links then
        match b.closeScan n (Nat.le_refl n) with
        | none => .error .assertion
        | some k =>
            .ok ({ b with bm := { b.bm with last_close := env.now } }, calls ++ [.closeLink k])
      else .ok (b, calls)

/-- The link in slot `k` has joined the bundle. -/
def up (k : Fin n) : Bool := (b.links k).any (·.joined_bund)

def openState (k : Fin n) : Bool := (b.links k).any (·.state.openState)

def Obtains : Prop := ∃ k, b.wanted k ∧ (b.obtain? env k).isSome

instance : Decidable (b.Obtains env) := Fintype.decidableExistsFintype

def linksThen : UInt16 :=
  if (b.updateStats env).raises env ∧ b.Obtains env then b.n_links + 1 else b.n_links

/-- What is asked of a step: no fault, one new link at most, and no link closed but where
another one remains up. -/
def Managed (result : Except Fault (BmBund n × List (BmCall n))) : Prop :=
  ∃ b calls, result = .ok (b, calls) ∧ (calls.filter BmCall.isOpen).length ≤ 1 ∧
    ∀ k, .closeLink k ∈ calls → ∃ j, j ≠ k ∧ b.up j

/-- More demand finds a link to open, or the last slot is not one to try. Less demand finds
another link up, or behind the only one that is up a link that can be closed in its place. -/
structure Manageable : Prop where
  opens : (b.updateStats env).raises env → (∃ k : Fin n, k + 1 = n ∧ b.wanted k) → b.Obtains env
  spares : (b.updateStats env).lowers env → 1 < b.linksThen env →
    ∀ k, b.up k → (∃ j, j ≠ k ∧ b.up j) ∨ ∃ j, k < j ∧ b.openState j

section Stats

variable {env b}

@[simp] theorem wanted_updateStats (k : Fin n) : (b.updateStats env).wanted k = b.wanted k := by
  unfold wanted
  exact congrArg (· && decide (b.conf.linkst k ≠ "")) Option.isNone_map

@[simp] theorem obtain?_updateStats (k : Fin n) :
    (b.updateStats env).obtain? env k = b.obtain? env k := rfl

@[simp] theorem up_updateStats (k : Fin n) : (b.updateStats env).up k = b.up k := by
  cases found : b.links k with
  | none => simp [up, updateStats, found]
  | some l => simp [up, updateStats, found, apply_ite SlotLink.joined_bund]

@[simp] theorem openState_updateStats (k : Fin n) :
    (b.updateStats env).openState k = b.openState k := by
  cases found : b.links k with
  | none => simp [openState, updateStats, found]
  | some l => simp [openState, updateStats, found, apply_ite SlotLink.state]

end Stats

section Opening

variable {env b}

theorem wanted_free {k : Fin n} (wanted : b.wanted k) : b.links k = none := by
  simp only [BmBund.wanted, Bool.and_eq_true, Option.isNone_iff_eq_none] at wanted
  exact wanted.1

theorem bundCreateOpenLink_wanted {k : Fin n} (wanted : b.wanted k) :
    b.bundCreateOpenLink env k = (b.obtain? env k).map fun l =>
      { b with links := Function.update b.links k (some l), n_links := b.n_links + 1 } := by
  have named : b.conf.linkst k ≠ "" := by
    simp only [BmBund.wanted, Bool.and_eq_true, decide_eq_true_eq] at wanted
    exact wanted.2
  unfold bundCreateOpenLink
  rw [wanted_free wanted]
  exact if_pos named

theorem obtain?_fresh {k : Fin n} {l : SlotLink} (found : b.obtain? env k = some l) :
    l.state = .initial ∧ l.joined_bund = false := by
  unfold obtain? at found
  split at found
  · cases found
  · split_ifs at found
    cases found
    exact ⟨rfl, rfl⟩

inductive Scanned (env : BmWorld n) (b : BmBund n) (k : Nat) :
    Except Fault (BmBund n × List (BmCall n)) → Prop
  | overrun (none : ∀ j : Fin n, k ≤ j → b.wanted j → b.obtain? env j = none)
      (last : k = n ∨ ∃ j : Fin n, j + 1 = n ∧ b.wanted j) : Scanned env b k (.error .outOfBounds)
  | nothing {b' : BmBund n} (same : b'.links = b.links) (count : b'.n_links = b.n_links)
      (none : ∀ j : Fin n, k ≤ j → b.wanted j → b.obtain? env j = none)
      (last : ∃ j : Fin n, j + 1 = n ∧ ¬ b.wanted j) : Scanned env b k (.ok (b', []))
  | opens {b' : BmBund n} {j : Fin n} {l : SlotLink} (wanted : b.wanted j)
      (found : b.obtain? env j = some l) (one : b'.links = Function.update b.links j (some l))
      (count : b'.n_links = b.n_links + 1) : Scanned env b k (.ok (b', [.openLink j]))

theorem Scanned.earlier {k : Nat} {result : Except Fault (BmBund n × List (BmCall n))}
    (slot : k < n) (bm : BmState) (scanned : Scanned env { b with bm := bm } (k + 1) result)
    (here : b.wanted ⟨k, slot⟩ → b.obtain? env ⟨k, slot⟩ = none)
    (last_here : k + 1 = n → b.wanted ⟨k, slot⟩) : Scanned env b k result := by
  have none_from (later : ∀ j : Fin n, k + 1 ≤ j → b.wanted j → b.obtain? env j = none)
      (j : Fin n) (from_k : k ≤ j) (wanted : b.wanted j) : b.obtain? env j = none := by
    rcases Nat.eq_or_lt_of_le from_k with rfl | behind
    · exact here wanted
    · exact later j behind wanted
  cases scanned with
  | overrun none last =>
      refine .overrun (none_from none) (.inr ?_)
      rcases last with beyond | last
      · exact ⟨⟨k, slot⟩, beyond, last_here beyond⟩
      · exact last
  | nothing same count none last => exact .nothing same count (none_from none) last
  | opens wanted found one count => exact .opens wanted found one count

theorem openScan_scanned {k : Nat} (inside : k ≤ n) : Scanned env b k (b.openScan env k) := by
  induction size : n - k generalizing b k with
  | zero =>
      have beyond : k = n := by omega
      subst beyond
      unfold openScan
      rw [dif_neg (Nat.lt_irrefl k)]
      exact .overrun (fun j from_k => absurd j.isLt (Nat.not_lt.mpr from_k)) (.inl rfl)
  | succ size ih =>
      have slot : k < n := by omega
      have later (b : BmBund n) := ih (b := b) (k := k + 1) slot (by omega)
      unfold openScan
      rw [dif_pos slot]
      by_cases wanted : b.wanted ⟨k, slot⟩ = true
      · rw [if_pos wanted]
        have tried := @bundCreateOpenLink_wanted n env
          { b with bm := { b.bm with last_open := env.now } } ⟨k, slot⟩ wanted
        have same : ({ b with bm := { b.bm with last_open := env.now } } : BmBund n).obtain? env
            ⟨k, slot⟩ = b.obtain? env ⟨k, slot⟩ := rfl
        rw [same] at tried
        dsimp only
        rw [tried]
        cases found : b.obtain? env ⟨k, slot⟩ with
        | some l => exact .opens wanted found rfl rfl
        | none => exact .earlier slot _ (later _) (fun _ => found) fun _ => wanted
      · rw [if_neg wanted]
        have here (wanted' : b.wanted ⟨k, slot⟩ = true) : b.obtain? env ⟨k, slot⟩ = none :=
          absurd wanted' wanted
        split
        · rename_i goes_on
          exact .earlier slot b.bm (later b) here fun beyond => absurd beyond (Nat.ne_of_lt goes_on)
        · rename_i stops
          refine .nothing rfl rfl ?_ ⟨⟨k, slot⟩, ?_, wanted⟩
          · intro j from_k
            have below : (j : Nat) ≤ k := by omega
            have here_only : j = ⟨k, slot⟩ := Fin.ext (Nat.le_antisymm below from_k)
            rw [here_only]
            exact here
          · exact Nat.le_antisymm slot (Nat.not_lt.mp stops)

end Opening

section Closing

variable {env b}

/-- The scan for a link to close finds the last one that is up or on its way. -/
theorem closeScan_some {k : Nat} {inside : k ≤ n} {j : Fin n}
    (found : b.closeScan k inside = some j) :
    b.openState j ∧ j < k ∧ ∀ i : Fin n, i < k → j < i → ¬ b.openState i := by
  induction k with
  | zero => cases found
  | succ k ih =>
      unfold closeScan at found
      split at found
      · rename_i here
        cases found
        exact ⟨here, Nat.lt_succ_self k, fun i below above => absurd (Nat.lt_succ_iff.mp below)
          (Nat.not_le.mpr above)⟩
      · rename_i closed
        obtain ⟨there, below, none⟩ := ih found
        refine ⟨there, Nat.lt_succ_of_lt below, ?_⟩
        intro i under above
        rcases Nat.eq_or_lt_of_le (Nat.lt_succ_iff.mp under) with same | lower
        · have here : i = ⟨k, inside⟩ := Fin.ext same
          rw [here]
          exact closed
        · exact none i lower above

theorem closeScan_none {k : Nat} {inside : k ≤ n} (nowhere : b.closeScan k inside = none)
    (i : Fin n) (below : i < k) : ¬ b.openState i := by
  induction k with
  | zero => exact absurd below (Nat.not_lt_zero i)
  | succ k ih =>
      unfold closeScan at nowhere
      split at nowhere
      · cases nowhere
      · rename_i closed
        rcases Nat.eq_or_lt_of_le (Nat.lt_succ_iff.mp below) with same | lower
        · have here : i = ⟨k, inside⟩ := Fin.ext same
          rw [here]
          exact closed
        · exact ih nowhere lower

theorem openState_of_up {k : Fin n} (up : b.up k) : b.openState k := by
  unfold BmBund.up at up
  unfold openState
  cases found : b.links k with
  | none =>
      rw [found] at up
      cases up
  | some l =>
      rw [found] at up
      simp only [Option.any_some] at up ⊢
      rw [l.opened up]
      rfl

end Closing

section Step

variable {env b}

/-- The second half of a step, behind a scan that left `b` and made `calls`. -/
theorem close_managed (lowers : Bool) {calls : List (BmCall n)} (there : ∃ k, b.up k)
    (few : (calls.filter BmCall.isOpen).length ≤ 1) (no_close : ∀ k, .closeLink k ∉ calls) :
    Managed (if lowers && 1 < b.n_links then
        match b.closeScan n (Nat.le_refl n) with
        | none => .error .assertion
        | some k =>
            .ok ({ b with bm := { b.bm with last_close := env.now } }, calls ++ [.closeLink k])
      else .ok (b, calls)) ↔
    (lowers → 1 < b.n_links →
      ∀ k, b.up k → (∃ j, j ≠ k ∧ b.up j) ∨ ∃ j, k < j ∧ b.openState j) := by
  by_cases closes : (lowers && decide (1 < b.n_links)) = true
  · rw [if_pos closes]
    simp only [Bool.and_eq_true, decide_eq_true_eq] at closes
    obtain ⟨one, joined⟩ := there
    cases found : b.closeScan n (Nat.le_refl n) with
    | none => exact absurd (openState_of_up joined) (closeScan_none found one one.isLt)
    | some last =>
        obtain ⟨wants, -, none_later⟩ := closeScan_some found
        constructor
        · rintro ⟨b', calls', result, -, others⟩ - - k up
          cases result
          obtain ⟨j, other, up'⟩ := others last (by simp)
          by_cases same : last = k
          · exact .inl ⟨j, same ▸ other, up'⟩
          · refine .inr ⟨last, ?_, wants⟩
            rcases lt_trichotomy k last with before | same' | behind
            · exact before
            · exact absurd same'.symm same
            · exact absurd (openState_of_up up) (none_later k k.isLt behind)
        · intro spares
          refine ⟨_, _, rfl, ?_, ?_⟩
          · rw [List.filter_append, List.length_append]
            exact few
          · intro k member
            have here : k = last := by simpa [no_close k] using member
            subst here
            by_cases up : b.up k = true
            · rcases spares closes.1 closes.2 k up with other | ⟨j, behind, wants'⟩
              · exact other
              · exact absurd wants' (none_later j j.isLt behind)
            · refine ⟨one, ?_, joined⟩
              rintro rfl
              exact up joined
  · rw [if_neg closes]
    simp only [Bool.and_eq_true, decide_eq_true_eq] at closes
    refine ⟨fun _ low many => absurd ⟨low, many⟩ closes, fun _ => ⟨_, _, rfl, few, ?_⟩⟩
    intro k member
    exact absurd member (no_close k)

theorem up_opened {b' : BmBund n} {j : Fin n} {l : SlotLink} (wanted : b.wanted j)
    (found : b.obtain? env j = some l) (one : b'.links = Function.update b.links j (some l))
    (k : Fin n) : b'.up k = b.up k ∧ b'.openState k = b.openState k := by
  obtain ⟨initial, fresh⟩ := obtain?_fresh found
  unfold up openState
  rw [one]
  by_cases here : k = j
  · subst here
    rw [Function.update_self, wanted_free wanted]
    simp [initial, fresh, FsmState.openState]
  · rw [Function.update_of_ne here]
    exact ⟨rfl, rfl⟩

/-- What is asked of the scan for a link to close, by the state before the step. -/
theorem close_managed_iff {b' : BmBund n} {calls : List (BmCall n)} (there : ∃ k, b.up k)
    (few : (calls.filter BmCall.isOpen).length ≤ 1) (no_close : ∀ k, .closeLink k ∉ calls)
    (same : ∀ k, b'.up k = b.up k ∧ b'.openState k = b.openState k)
    (count : b'.n_links = b.linksThen env) :
    Managed (if (b.updateStats env).lowers env && 1 < b'.n_links then
        match b'.closeScan n (Nat.le_refl n) with
        | none => .error .assertion
        | some k =>
            .ok ({ b' with bm := { b'.bm with last_close := env.now } }, calls ++ [.closeLink k])
      else .ok (b', calls)) ↔
    ((b.updateStats env).lowers env → 1 < b.linksThen env →
      ∀ k, b.up k → (∃ j, j ≠ k ∧ b.up j) ∨ ∃ j, k < j ∧ b.openState j) := by
  obtain ⟨one, up⟩ := there
  have closing := @close_managed n env b' ((b.updateStats env).lowers env) _
    ⟨one, (same one).1.trans up⟩ few no_close
  simp only [same, count] at closing ⊢
  exact closing

theorem not_obtains (none : ∀ k : Fin n, 0 ≤ k.val → (b.updateStats env).wanted k →
    (b.updateStats env).obtain? env k = none) : ¬ b.Obtains env := by
  rintro ⟨k, wanted, had⟩
  have nothing := none k (Nat.zero_le k) ((wanted_updateStats k).trans wanted)
  rw [obtain?_updateStats] at nothing
  simp [nothing] at had

/-- A step of a bundle with a link up is as it should be if and only if neither of its two
scans is led astray. -/
theorem bundBmTimeout_managed_iff (there : ∃ k, b.up k) :
    Managed (b.bundBmTimeout env) ↔ b.Manageable env := by
  have slots : 0 < n := Fin.pos there.choose
  have split : b.Manageable env ↔
      ((b.updateStats env).raises env → (∃ k : Fin n, k + 1 = n ∧ b.wanted k) → b.Obtains env) ∧
      ((b.updateStats env).lowers env → 1 < b.linksThen env →
        ∀ k, b.up k → (∃ j, j ≠ k ∧ b.up j) ∨ ∃ j, k < j ∧ b.openState j) :=
    ⟨fun managed => ⟨managed.opens, managed.spares⟩, fun both => ⟨both.1, both.2⟩⟩
  rw [split]
  unfold bundBmTimeout
  dsimp only
  by_cases raises : (b.updateStats env).raises env = true
  · have scanned := @openScan_scanned n env (b.updateStats env) _ (Nat.zero_le n)
    rw [if_pos (by simp [raises, slots])]
    generalize (b.updateStats env).openScan env 0 = result at scanned
    cases scanned with
    | overrun none last =>
        refine ⟨?_, ?_⟩
        · rintro ⟨b', calls, result, -⟩
          cases result
        · rintro ⟨opens, -⟩
          obtain ⟨last, beyond, wanted⟩ := last.resolve_left (Nat.ne_of_lt slots)
          rw [wanted_updateStats] at wanted
          exact absurd (opens raises ⟨last, beyond, wanted⟩) (not_obtains none)
    | @nothing b' same count none last =>
        have opens : (∃ k : Fin n, k + 1 = n ∧ b.wanted k) → b.Obtains env := by
          rintro ⟨k, beyond, wanted⟩
          obtain ⟨j, beyond', unwanted⟩ := last
          have here : k = j := Fin.ext (by omega)
          subst here
          exact absurd ((wanted_updateStats k).trans wanted) unwanted
        have unchanged (k : Fin n) : b'.up k = b.up k ∧ b'.openState k = b.openState k := by
          rw [← @up_updateStats n env b, ← @openState_updateStats n env b]
          unfold up openState
          rw [same]
          exact ⟨rfl, rfl⟩
        have links : b'.n_links = b.linksThen env := by
          rw [count, linksThen, if_neg fun both => not_obtains none both.2]
          rfl
        have closing := @close_managed_iff n env b _ [] there (Nat.zero_le 1)
          (fun _ => List.not_mem_nil) unchanged links
        exact closing.trans ⟨fun spares => ⟨fun _ => opens, spares⟩, fun both => both.2⟩
    | @opens b' j l wanted found one count =>
        have had : b.Obtains env := by
          rw [wanted_updateStats] at wanted
          rw [obtain?_updateStats] at found
          exact ⟨j, wanted, by simp [found]⟩
        have unchanged (k : Fin n) : b'.up k = b.up k ∧ b'.openState k = b.openState k := by
          have opened := up_opened wanted found one k
          rw [up_updateStats, openState_updateStats] at opened
          exact opened
        have links : b'.n_links = b.linksThen env := by
          rw [count, linksThen, if_pos ⟨raises, had⟩]
          rfl
        have closing := @close_managed_iff n env b _ [.openLink j] there (Nat.le_refl 1)
          (by simp) unchanged links
        exact closing.trans ⟨fun spares => ⟨fun _ _ => had, spares⟩, fun both => both.2⟩
  · rw [if_neg (by simp [raises])]
    have links : (b.updateStats env).n_links = b.linksThen env := by
      rw [linksThen, if_neg fun both => raises both.1]
      rfl
    have closing := @close_managed_iff n env b _ [] there (Nat.zero_le 1)
      (fun _ => List.not_mem_nil) (fun k => ⟨up_updateStats k, openState_updateStats k⟩) links
    exact closing.trans
      ⟨fun spares => ⟨fun now => absurd now raises, spares⟩, fun both => both.2⟩

def idle (first : SlotLink) : BmBund 16 where
  links := fun k =>
    if k = 0 then some first
    else if k = 1 then some ⟨.opened, true, ⟨0, 0⟩, fun _ => rfl⟩ else none
  n_links := 2
  n_up := 1
  bm := ⟨List.replicate 6 0, List.replicate 6 0, List.replicate 6 0, List.replicate 6 0, 0, 0, 0⟩
  conf := ⟨60, 80, 20, 60, 90, fun _ => ""⟩

def noLinks : BmWorld 16 := ⟨1000, fun _ => ⟨0, 0⟩, fun _ _ => 0, fun _ => none, fun _ => false⟩

theorem bundBmTimeout_two_up :
    Managed ((idle ⟨.opened, true, ⟨0, 0⟩, fun _ => rfl⟩).bundBmTimeout noLinks) :=
  (bundBmTimeout_managed_iff ⟨1, rfl⟩).mpr ⟨by decide, by decide⟩

/-- While the link of slot 0 is still connecting the only one that is up is closed. -/
theorem bundBmTimeout_not_managed :
    ¬ Managed ((idle ⟨.starting, false, ⟨0, 0⟩, nofun⟩).bundBmTimeout noLinks) := by
  have step : ∃ b, (idle ⟨.starting, false, ⟨0, 0⟩, nofun⟩).bundBmTimeout noLinks =
      .ok (b, [.closeLink 1]) ∧ ∀ j, j ≠ 1 → ¬ b.up j := ⟨_, rfl, by decide⟩
  obtain ⟨b, closed, alone⟩ := step
  rintro ⟨b', calls, result, -, others⟩
  rw [closed] at result
  cases result
  obtain ⟨j, other, up⟩ := others 1 (by simp)
  exact alone j other up

end Step

end BmBund

end

end Mpd.Bandwidth
