import Mathlib.Data.List.Induction
import Mpd.IpPool

/-! `IPPoolAdd` of `ippool.c`: a range of addresses becomes part of a pool. -/

set_option autoImplicit false

namespace Mpd

/-- `LINK_MAX_NAME`, with the byte that ends the name. -/
def linkMaxName : Nat := 16

/-- What a call did to the new array: how many records `Malloc` was asked for,
and the places that were written, in their order. -/
structure PoolArray where
  allocated : Int
  written : List Nat
  deriving DecidableEq, Repr

/-- The length of a range in an `int`, which takes 32 bit differences from
2147483648 on for negative. -/
def rangeCount (first last : UInt32) : Int :=
  let difference := (last - first + 1).toNat
  if difference < 2147483648 then difference else (difference : Int) - 4294967296

/-- One round of the second loop, with the records so far and their places: the
next address of the range is put behind them unless the pool had it before. -/
def ipPoolPut (old : List IPPoolRec) (first : UInt32) (state : List IPPoolRec × List Nat)
    (i : Nat) : List IPPoolRec × List Nat :=
  let ip := first + UInt32.ofNat i
  if old.any fun record => record.ip == ip then state
  else (state.1 ++ [⟨ip, false⟩], state.2 ++ [state.1.length])

/-- The part of `IPPoolAdd` that works on one pool. -/
def ipPoolExtend (p : IPPool) (first last : UInt32) : IPPool × PoolArray :=
  let c := rangeCount first last
  let total := p.pool.countP fun record => record.ip != 0
  let filled := (List.range c.toNat).foldl (ipPoolPut p.pool first)
    (p.pool, List.range p.pool.length)
  ({ p with pool := filled.1 }, { allocated := total + c, written := filled.2 })

def ipPoolAddTo (name : Bytes) (first last : UInt32) :
    List IPPool → Option (List IPPool × PoolArray)
  | [] => none
  | p :: pools =>
      if p.name = name then
        let (p', array) := ipPoolExtend p first last
        some (p' :: pools, array)
      else (ipPoolAddTo name first last pools).map fun found => (p :: found.1, found.2)

/-- `IPPoolAdd`. Nothing is allocated for a range that is too big. -/
def ipPoolAdd (name : Bytes) (first last : UInt32) (pools : List IPPool) :
    List IPPool × Option PoolArray :=
  if rangeCount first last > 65536 then (pools, none)
  else
    match ipPoolAddTo name first last pools with
    | some (pools', array) => (pools', some array)
    | none =>
        let (p, array) := ipPoolExtend ⟨name.take (linkMaxName - 1), []⟩ first last
        (p :: pools, some array)

/-- The calls that work on the pools. -/
inductive PoolAct where
  | add (name : Bytes) (first last : UInt32)
  | get (name : Bytes)
  | free (name : Bytes) (ip : UInt32)
  deriving DecidableEq, Repr

def ipPoolStep (pools : List IPPool) : PoolAct → List IPPool
  | .add name first last => (ipPoolAdd name first last pools).1
  | .get name => ((ipPoolGet name pools).map (·.2)).getD pools
  | .free name ip => ipPoolFree name ip pools

/-- The pools after a run from `IPPoolInit` on. -/
def ipPoolRun (acts : List PoolAct) : List IPPool := acts.foldl ipPoolStep []

/-- The records of the pool with this name, none if there is no such pool. -/
def poolNamed (name : Bytes) : List IPPool → List IPPoolRec
  | [] => []
  | p :: pools => if p.name = name then p.pool else poolNamed name pools

section Fill

variable {old : List IPPoolRec} {first last : UInt32}

def rangeIps (first : UInt32) (count : Nat) : List UInt32 :=
  (List.range count).map fun i => first + UInt32.ofNat i

/-- The addresses of a range that a pool does not have yet. -/
def freshIps (old : List IPPoolRec) (ips : List UInt32) : List UInt32 :=
  ips.filter fun ip => ! old.any fun record => record.ip == ip

theorem foldl_ipPoolPut (is : List Nat) (state : List IPPoolRec × List Nat) :
    is.foldl (ipPoolPut old first) state =
      (state.1 ++ (freshIps old (is.map fun i => first + UInt32.ofNat i)).map (⟨·, false⟩),
        state.2 ++ List.range' state.1.length
          (freshIps old (is.map fun i => first + UInt32.ofNat i)).length) := by
  induction is generalizing state with
  | nil => simp [freshIps]
  | cons i is ih =>
      rw [List.foldl_cons, ih]
      unfold ipPoolPut freshIps
      cases known : old.any fun record => record.ip == first + UInt32.ofNat i with
      | true => simp [known]
      | false =>
          simp [known, List.range'_succ]

theorem ipPoolExtend_eq (p : IPPool) (first last : UInt32) :
    ipPoolExtend p first last =
      let fresh := freshIps p.pool (rangeIps first (rangeCount first last).toNat)
      ({ p with pool := p.pool ++ fresh.map (⟨·, false⟩) },
        { allocated := p.pool.countP (fun record => record.ip != 0) + rangeCount first last
          written := List.range (p.pool.length + fresh.length) }) := by
  have places (before more : Nat) :
      List.range before ++ List.range' before more = List.range (before + more) := by
    have joined : List.range' 0 before ++ List.range' (0 + before) more =
        List.range' 0 (before + more) := List.range'_append_1
    rw [Nat.zero_add] at joined
    rw [List.range_eq_range', List.range_eq_range', joined]
  simp only [ipPoolExtend, foldl_ipPoolPut, rangeIps, places]

structure Upward (first last : UInt32) : Prop where
  ordered : first ≤ last
  counted : last.toNat - first.toNat + 1 < 2147483648

theorem Upward.rangeCount_eq (upward : Upward first last) :
    rangeCount first last = ((last.toNat - first.toNat + 1 : Nat) : Int) := by
  have ordered : first.toNat ≤ last.toNat := upward.ordered
  have counted := upward.counted
  have difference : (last - first + 1).toNat = last.toNat - first.toNat + 1 := by
    rw [UInt32.toNat_add, UInt32.toNat_sub_of_le _ _ upward.ordered]
    have one : (1 : UInt32).toNat = 1 := rfl
    omega
  simp only [rangeCount, difference]
  rw [if_pos counted]

theorem Upward.toNat_add (upward : Upward first last) {i : Nat}
    (below : i < (rangeCount first last).toNat) :
    (first + UInt32.ofNat i).toNat = first.toNat + i := by
  have ordered : first.toNat ≤ last.toNat := upward.ordered
  have bounded : last.toNat < 4294967296 := last.toNat_lt
  rw [upward.rangeCount_eq, Int.toNat_natCast] at below
  rw [UInt32.toNat_add, UInt32.toNat_ofNat']
  omega

theorem Upward.mem_rangeIps_iff (upward : Upward first last) (ip : UInt32) :
    ip ∈ rangeIps first (rangeCount first last).toNat ↔ first ≤ ip ∧ ip ≤ last := by
  have ordered : first.toNat ≤ last.toNat := upward.ordered
  simp only [rangeIps, List.mem_map, List.mem_range, UInt32.le_iff_toNat_le]
  constructor
  · rintro ⟨i, below, rfl⟩
    rw [upward.toNat_add below]
    rw [upward.rangeCount_eq, Int.toNat_natCast] at below
    omega
  · rintro ⟨above, under⟩
    have below : ip.toNat - first.toNat < (rangeCount first last).toNat := by
      rw [upward.rangeCount_eq, Int.toNat_natCast]
      omega
    refine ⟨ip.toNat - first.toNat, below, UInt32.toNat_inj.mp ?_⟩
    rw [upward.toNat_add below]
    omega

theorem Upward.nodup_rangeIps (upward : Upward first last) :
    (rangeIps first (rangeCount first last).toNat).Nodup := by
  refine List.Nodup.map_on ?_ List.nodup_range
  intro i inside j inside' same
  have values := congrArg UInt32.toNat same
  rw [upward.toNat_add (List.mem_range.mp inside), upward.toNat_add (List.mem_range.mp inside')]
    at values
  omega

theorem mem_freshIps_iff (ips : List UInt32) (ip : UInt32) :
    ip ∈ freshIps old ips ↔ ip ∈ ips ∧ ip ∉ old.map (·.ip) := by
  simp [freshIps]

/-- At least one fewer is fresh where the pool has an address of the range. -/
theorem length_freshIps_lt {ips : List UInt32} {ip : UInt32} (inside : ip ∈ ips)
    (known : ip ∈ old.map (·.ip)) : (freshIps old ips).length < ips.length := by
  refine List.length_filter_lt_length_iff_exists.mpr ⟨ip, inside, ?_⟩
  obtain ⟨record, member, same⟩ := List.mem_map.mp known
  have found : (old.any fun record => record.ip == ip) = true :=
    List.any_eq_true.mpr ⟨record, member, by simp [same]⟩
  simp [found]

theorem countP_eq_length (without : (0 : UInt32) ∉ old.map (·.ip)) :
    old.countP (fun record => record.ip != 0) = old.length := by
  rw [List.countP_eq_length]
  intro record member
  have differs : record.ip ≠ 0 := by
    intro zero
    exact without (zero ▸ List.mem_map_of_mem member)
  simpa using differs

/-- At most one record is left out of the count of a pool without repetitions. -/
theorem length_le_countP_add_one (distinct : (old.map (·.ip)).Nodup) :
    old.length ≤ old.countP (fun record => record.ip != 0) + 1 := by
  induction old with
  | nil => exact Nat.zero_le _
  | cons record old ih =>
      rw [List.map_cons, List.nodup_cons] at distinct
      obtain ⟨fresh, rest⟩ := distinct
      by_cases zero : record.ip = 0
      · rw [zero] at fresh
        have whole := countP_eq_length fresh
        rw [List.countP_cons_of_neg (by simp [zero]), whole]
        exact Nat.le_refl (old.length + 1)
      · have counted := ih rest
        rw [List.countP_cons_of_pos (by simpa using zero), List.length_cons]
        omega

/-- The record of 0.0.0.0 is not counted for the new array. That is made up for
where the range has an address that needs no record of its own. -/
def PlaceForZero (old : List IPPoolRec) (first last : UInt32) : Prop :=
  (0 : UInt32) ∈ old.map (·.ip) → ∃ ip ∈ old.map (·.ip), first ≤ ip ∧ ip ≤ last

theorem written_lt_allocated {p : IPPool} (distinct : (p.pool.map (·.ip)).Nodup)
    (upward : Upward first last) (placed : PlaceForZero p.pool first last) :
    ∀ place ∈ (ipPoolExtend p first last).2.written,
      (place : Int) < (ipPoolExtend p first last).2.allocated := by
  intro place written
  rw [ipPoolExtend_eq] at written ⊢
  simp only [List.mem_range] at written ⊢
  have size : (rangeIps first (rangeCount first last).toNat).length =
      (rangeCount first last).toNat := by simp [rangeIps]
  have count := upward.rangeCount_eq
  by_cases zero : (0 : UInt32) ∈ p.pool.map (·.ip)
  · obtain ⟨ip, known, bounds⟩ := placed zero
    have fewer := length_freshIps_lt ((upward.mem_rangeIps_iff ip).mpr bounds) known
    have counted := length_le_countP_add_one distinct
    omega
  · have fresh : (freshIps p.pool (rangeIps first (rangeCount first last).toNat)).length ≤ _ :=
      List.length_filter_le _ _
    have counted := countP_eq_length zero
    omega

end Fill

section Named

variable {name other : Bytes} {first last ip : UInt32} {pools : List IPPool}

def recordsAdd (first last : UInt32) (old : List IPPoolRec) : List IPPoolRec :=
  if rangeCount first last > 65536 then old
  else old ++ (freshIps old (rangeIps first (rangeCount first last).toNat)).map (⟨·, false⟩)

theorem pool_ipPoolExtend {p : IPPool} (small : ¬ rangeCount first last > 65536) :
    (ipPoolExtend p first last).1.pool = recordsAdd first last p.pool := by
  rw [ipPoolExtend_eq, recordsAdd, if_neg small]

theorem poolNamed_of_ipPoolAddTo_eq_none (none : ipPoolAddTo name first last pools = none) :
    poolNamed name pools = [] := by
  induction pools with
  | nil => rfl
  | cons p pools ih =>
      unfold ipPoolAddTo at none
      split_ifs at none with named
      rw [poolNamed, if_neg named]
      exact ih (Option.map_eq_none_iff.mp none)

/-- The call works on the first pool of this name and on no other. -/
theorem ipPoolAddTo_eq_some {pools' : List IPPool} {array : PoolArray}
    (found : ipPoolAddTo name first last pools = some (pools', array)) :
    ∃ p, p.pool = poolNamed name pools ∧ array = (ipPoolExtend p first last).2 ∧
      ∀ other, poolNamed other pools' =
        if other = name then (ipPoolExtend p first last).1.pool else poolNamed other pools := by
  induction pools generalizing pools' with
  | nil => cases found
  | cons q pools ih =>
      unfold ipPoolAddTo at found
      by_cases named : q.name = name
      · rw [if_pos named, Option.some.injEq, Prod.mk.injEq] at found
        obtain ⟨rfl, rfl⟩ := found
        refine ⟨q, by rw [poolNamed, if_pos named], rfl, ?_⟩
        intro other
        have kept : (ipPoolExtend q first last).1.name = name := by
          rw [ipPoolExtend_eq]
          exact named
        simp only [poolNamed, kept, named, eq_comm]
        split_ifs <;> rfl
      · rw [if_neg named] at found
        obtain ⟨⟨rest, array'⟩, inside, same⟩ := Option.map_eq_some_iff.mp found
        obtain ⟨rfl, rfl⟩ := Prod.mk.inj same
        obtain ⟨p, records, written, others⟩ := ih inside
        refine ⟨p, by rw [poolNamed, if_neg named]; exact records, written, ?_⟩
        intro other
        simp only [poolNamed]
        by_cases here : q.name = other
        · have differs : other ≠ name := here ▸ named
          rw [if_pos here, if_neg differs, if_pos here]
        · rw [if_neg here, if_neg here, others]

theorem ipPoolAdd_spec (fits : name.length < linkMaxName)
    (small : ¬ rangeCount first last > 65536) :
    (∃ p : IPPool, p.pool = poolNamed name pools ∧
      (ipPoolAdd name first last pools).2 = some (ipPoolExtend p first last).2) ∧
    ∀ other, poolNamed other (ipPoolAdd name first last pools).1 =
      if other = name then recordsAdd first last (poolNamed name pools)
      else poolNamed other pools := by
  have kept : name.take (linkMaxName - 1) = name := List.take_of_length_le (by omega)
  unfold ipPoolAdd
  rw [if_neg small, kept]
  cases found : ipPoolAddTo name first last pools with
  | none =>
      have empty := poolNamed_of_ipPoolAddTo_eq_none found
      refine ⟨⟨⟨name, []⟩, empty.symm, rfl⟩, ?_⟩
      intro other
      have named : (ipPoolExtend ⟨name, []⟩ first last).1.name = name := by
        rw [ipPoolExtend_eq]
      simp only [poolNamed, named, pool_ipPoolExtend small, empty, eq_comm]
  | some result =>
      obtain ⟨pools', array⟩ := result
      obtain ⟨p, records, written, others⟩ := ipPoolAddTo_eq_some found
      refine ⟨⟨p, records, by rw [written]⟩, ?_⟩
      intro other
      rw [others, pool_ipPoolExtend small, records]

theorem poolNamed_ipPoolAdd (fits : name.length < linkMaxName) (other : Bytes) :
    poolNamed other (ipPoolAdd name first last pools).1 =
      if other = name then recordsAdd first last (poolNamed name pools)
      else poolNamed other pools := by
  by_cases small : rangeCount first last > 65536
  · rw [ipPoolAdd, if_pos small, recordsAdd, if_pos small]
    split_ifs with same
    · rw [same]
    · rfl
  · exact (ipPoolAdd_spec fits small).2 other

theorem ips_poolNamed_ipPoolGet {pools' : List IPPool}
    (got : ipPoolGet name pools = some (ip, pools')) (other : Bytes) :
    (poolNamed other pools').map (·.ip) = (poolNamed other pools).map (·.ip) := by
  induction pools generalizing pools' with
  | nil => cases got
  | cons p pools ih =>
      unfold ipPoolGet at got
      by_cases named : p.name = name
      · rw [if_pos named] at got
        obtain ⟨⟨ip', rest⟩, found, same⟩ := Option.map_eq_some_iff.mp got
        obtain ⟨rfl, rfl⟩ := Prod.mk.inj same
        simp only [poolNamed]
        split_ifs
        · exact (ips_ipPoolTake found).1
        · rfl
      · rw [if_neg named] at got
        obtain ⟨⟨ip', rest⟩, found, same⟩ := Option.map_eq_some_iff.mp got
        obtain ⟨rfl, rfl⟩ := Prod.mk.inj same
        simp only [poolNamed]
        split_ifs
        · rfl
        · exact ih found

theorem ips_poolNamed_ipPoolFree (other : Bytes) :
    (poolNamed other (ipPoolFree name ip pools)).map (·.ip) =
      (poolNamed other pools).map (·.ip) := by
  induction pools with
  | nil => rfl
  | cons p pools ih =>
      unfold ipPoolFree
      by_cases named : p.name = name
      · rw [if_pos named]
        simp only [poolNamed]
        split_ifs
        · exact ips_ipPoolGive ip p.pool
        · rfl
      · rw [if_neg named]
        simp only [poolNamed]
        split_ifs
        · rfl
        · exact ih

end Named

section Runs

variable {acts : List PoolAct}

/-- A call on which the description of the union rests: the name fits, the range
runs upward and is counted right, and 0.0.0.0 is made up for. -/
structure Proper (pools : List IPPool) (name : Bytes) (first last : UInt32) : Prop where
  fits : name.length < linkMaxName
  upward : Upward first last
  placed : PlaceForZero (poolNamed name pools) first last

/-- Every `IPPoolAdd` of the run is proper for the pools that it finds. -/
def ProperRun (acts : List PoolAct) : Prop :=
  ∀ earlier name first last later, acts = earlier ++ .add name first last :: later →
    Proper (ipPoolRun earlier) name first last

/-- The address is in a range that was added to the pool and that was not too big. -/
def InUnion (acts : List PoolAct) (name : Bytes) (ip : UInt32) : Prop :=
  ∃ first last, .add name first last ∈ acts ∧ last.toNat - first.toNat < 65536 ∧
    first ≤ ip ∧ ip ≤ last

theorem ipPoolRun_concat (acts : List PoolAct) (act : PoolAct) :
    ipPoolRun (acts ++ [act]) = ipPoolStep (ipPoolRun acts) act := by
  rw [ipPoolRun, List.foldl_append]
  rfl

theorem ProperRun.before {act : PoolAct} (proper : ProperRun (acts ++ [act])) :
    ProperRun acts := by
  intro earlier name first last later split
  refine proper earlier name first last (later ++ [act]) ?_
  rw [split, List.append_assoc, List.cons_append]

theorem inUnion_concat (acts : List PoolAct) (act : PoolAct) (name : Bytes) (ip : UInt32) :
    InUnion (acts ++ [act]) name ip ↔ InUnion acts name ip ∨ InUnion [act] name ip := by
  unfold InUnion
  constructor
  · rintro ⟨first, last, member, range⟩
    rcases List.mem_append.mp member with before | now
    · exact .inl ⟨first, last, before, range⟩
    · exact .inr ⟨first, last, now, range⟩
  · rintro (⟨first, last, before, range⟩ | ⟨first, last, now, range⟩)
    · exact ⟨first, last, List.mem_append_left _ before, range⟩
    · exact ⟨first, last, List.mem_append_right _ now, range⟩

theorem inUnion_add_iff {added name : Bytes} {first last ip : UInt32}
    (upward : Upward first last) :
    InUnion [.add added first last] name ip ↔
      added = name ∧ ¬ rangeCount first last > 65536 ∧ first ≤ ip ∧ ip ≤ last := by
  have count := upward.rangeCount_eq
  have sized : last.toNat - first.toNat < 65536 ↔ ¬ rangeCount first last > 65536 := by omega
  constructor
  · rintro ⟨first', last', member, small, bounds⟩
    obtain ⟨rfl, rfl, rfl⟩ : added = name ∧ first' = first ∧ last' = last := by
      simpa [eq_comm] using member
    exact ⟨rfl, sized.mp small, bounds⟩
  · rintro ⟨rfl, small, bounds⟩
    exact ⟨first, last, List.mem_singleton_self _, sized.mpr small, bounds⟩

def IsUnion (acts : List PoolAct) (pools : List IPPool) (name : Bytes) : Prop :=
  ((poolNamed name pools).map (·.ip)).Nodup ∧
    ∀ ip, ip ∈ (poolNamed name pools).map (·.ip) ↔ InUnion acts name ip

theorem isUnion_recordsAdd {old : List IPPoolRec} {first last : UInt32}
    (upward : Upward first last) (distinct : (old.map (·.ip)).Nodup) :
    ((recordsAdd first last old).map (·.ip)).Nodup ∧
      ∀ ip, ip ∈ (recordsAdd first last old).map (·.ip) ↔
        ip ∈ old.map (·.ip) ∨
          ¬ rangeCount first last > 65536 ∧ first ≤ ip ∧ ip ≤ last := by
  unfold recordsAdd
  by_cases big : rangeCount first last > 65536
  · rw [if_pos big]
    exact ⟨distinct, by simp [big]⟩
  · have fresh (ips : List UInt32) : (ips.map (IPPoolRec.mk · false)).map (·.ip) = ips := by
      rw [List.map_map]
      exact List.map_id _
    rw [if_neg big, List.map_append, fresh]
    constructor
    · refine List.nodup_append.mpr ⟨distinct, upward.nodup_rangeIps.filter _, ?_⟩
      intro ip known ip' new same
      exact ((mem_freshIps_iff _ _).mp new).2 (same ▸ known)
    · intro ip
      rw [List.mem_append, mem_freshIps_iff, upward.mem_rangeIps_iff]
      tauto

theorem IsUnion.of_sameIps {act : PoolAct} {pools' : List IPPool} {name : Bytes}
    (union : IsUnion acts (ipPoolRun acts) name) (nothing : ∀ ip, ¬ InUnion [act] name ip)
    (same : (poolNamed name pools').map (·.ip) = (poolNamed name (ipPoolRun acts)).map (·.ip)) :
    IsUnion (acts ++ [act]) pools' name := by
  obtain ⟨distinct, members⟩ := union
  refine ⟨by rw [same]; exact distinct, ?_⟩
  intro ip
  rw [same, members, inUnion_concat]
  simp [nothing ip]

/-- Each step keeps every pool the union of what was added to it. -/
theorem IsUnion.step {act : PoolAct} (proper : ProperRun (acts ++ [act]))
    (union : ∀ name, IsUnion acts (ipPoolRun acts) name) (name : Bytes) :
    IsUnion (acts ++ [act]) (ipPoolRun (acts ++ [act])) name := by
  rw [ipPoolRun_concat]
  cases act with
  | add added first last =>
      obtain ⟨fits, upward, -⟩ := proper acts added first last [] rfl
      have records := @poolNamed_ipPoolAdd _ first last (ipPoolRun acts) fits name
      by_cases same : name = added
      · obtain ⟨distinct, members⟩ := union added
        obtain ⟨distinct', members'⟩ := isUnion_recordsAdd upward distinct
        rw [if_pos same] at records
        unfold IsUnion ipPoolStep
        rw [records]
        refine ⟨distinct', ?_⟩
        intro ip
        rw [members', members, inUnion_concat, inUnion_add_iff upward, same]
        simp
      · rw [if_neg same] at records
        refine (union name).of_sameIps ?_ (by rw [ipPoolStep, records])
        intro ip
        rw [inUnion_add_iff upward]
        exact fun inside => same inside.1.symm
  | get taken =>
      refine (union name).of_sameIps (by simp [InUnion]) ?_
      cases got : ipPoolGet taken (ipPoolRun acts) with
      | none => simp only [ipPoolStep, got, Option.map_none, Option.getD_none]
      | some result =>
          simp only [ipPoolStep, got, Option.map_some, Option.getD_some]
          exact ips_poolNamed_ipPoolGet got name
  | free freed ip =>
      exact (union name).of_sameIps (by simp [InUnion]) (ips_poolNamed_ipPoolFree name)

theorem isUnion_ipPoolRun (acts : List PoolAct) (proper : ProperRun acts) (name : Bytes) :
    IsUnion acts (ipPoolRun acts) name := by
  induction acts using List.reverseRecOn generalizing name with
  | nil => exact ⟨List.nodup_nil, by simp [ipPoolRun, poolNamed, InUnion]⟩
  | append_singleton acts act ih => exact IsUnion.step proper (ih proper.before) name

/-- What a proper `IPPoolAdd` leaves where it was: the records that any pool has,
with their used flags, and the bounds of the new array. -/
theorem ipPoolAdd_keeps (pools : List IPPool) {name : Bytes} {first last : UInt32}
    (proper : Proper pools name first last)
    (distinct : ((poolNamed name pools).map (·.ip)).Nodup) :
    (∀ other, poolNamed other pools <+: poolNamed other (ipPoolAdd name first last pools).1) ∧
      ∀ array ∈ (ipPoolAdd name first last pools).2, ∀ place ∈ array.written,
        (place : Int) < array.allocated := by
  constructor
  · intro other
    rw [poolNamed_ipPoolAdd proper.fits, recordsAdd]
    split_ifs with same big
    · subst same
      exact List.prefix_rfl
    · subst same
      exact List.prefix_append _ _
    · exact List.prefix_rfl
  · intro array called
    by_cases small : rangeCount first last > 65536
    · rw [ipPoolAdd, if_pos small] at called
      cases called
    · obtain ⟨p, records, written⟩ := (@ipPoolAdd_spec _ _ _ pools proper.fits small).1
      rw [written, Option.mem_some_iff] at called
      rw [← called]
      exact written_lt_allocated (records ▸ distinct) proper.upward (records ▸ proper.placed)

/-- In any run of proper calls every pool holds each address of the union of its
ranges once and nothing else, where ranges of more than 65536 addresses count
for nothing. No call touches the records that are there, and none writes outside
its array. -/
theorem ipPoolAdd_builds_union (acts : List PoolAct) (proper : ProperRun acts) :
    (∀ name, ((poolNamed name (ipPoolRun acts)).map (·.ip)).Nodup ∧
      ∀ ip, ip ∈ (poolNamed name (ipPoolRun acts)).map (·.ip) ↔ InUnion acts name ip) ∧
    ∀ earlier name first last later, acts = earlier ++ .add name first last :: later →
      (∀ other, poolNamed other (ipPoolRun earlier) <+:
        poolNamed other (ipPoolAdd name first last (ipPoolRun earlier)).1) ∧
      ∀ array ∈ (ipPoolAdd name first last (ipPoolRun earlier)).2, ∀ place ∈ array.written,
        (place : Int) < array.allocated := by
  refine ⟨isUnion_ipPoolRun acts proper, ?_⟩
  intro earlier name first last later split
  have before : ProperRun earlier := by
    intro first' name' from' to' later' split'
    refine proper first' name' from' to' (later' ++ .add name first last :: later) ?_
    rw [split, split', List.append_assoc, List.cons_append]
  exact ipPoolAdd_keeps (ipPoolRun earlier) (proper earlier name first last later split)
    (isUnion_ipPoolRun earlier before name).1

/-- Two ranges that overlap, with a lease between them. -/
theorem ipPoolAdd_builds_union_overlap :
    ((poolNamed [112] (ipPoolRun
        [.add [112] 10 12, .get [112], .add [112] 12 13])).map (·.ip)).Nodup ∧
      (12 ∈ (poolNamed [112] (ipPoolRun
          [.add [112] 10 12, .get [112], .add [112] 12 13])).map (·.ip) ↔
        InUnion [.add [112] 10 12, .get [112], .add [112] 12 13] [112] 12) := by
  have proper : ProperRun [.add [112] 10 12, .get [112], .add [112] 12 13] := by
    intro earlier name first last later split
    match earlier, split with
    | [], split =>
        simp only [List.nil_append, List.cons.injEq, PoolAct.add.injEq] at split
        obtain ⟨⟨rfl, rfl, rfl⟩, -⟩ := split
        exact ⟨by decide, ⟨by decide, by decide⟩, by unfold PlaceForZero; decide⟩
    | [_], split => simp at split
    | [_, _], split =>
        simp only [List.cons_append, List.nil_append, List.cons.injEq, PoolAct.add.injEq] at split
        obtain ⟨rfl, rfl, ⟨rfl, rfl, rfl⟩, -⟩ := split
        exact ⟨by decide, ⟨by decide, by decide⟩, by unfold PlaceForZero; decide⟩
    | _ :: _ :: _ :: _, split => simp at split
  have builds := (ipPoolAdd_builds_union _ proper).1 [112]
  exact ⟨builds.1, builds.2 12⟩

/-- The 65537 addresses from 0.0.0.1 to 0.1.0.1 are refused. -/
theorem ipPoolAdd_refuses_65537 :
    ipPoolAdd [112] 1 65537 [] = ([], none) ∧
      ¬ ∀ ip, ip ∈ (poolNamed [112] (ipPoolRun [.add [112] 1 65537])).map (·.ip) ↔
        (1 : UInt32) ≤ ip ∧ ip ≤ 65537 := by
  refine ⟨by decide, ?_⟩
  intro whole
  have member := (whole 1).mpr (by decide)
  revert member
  decide

end Runs

end Mpd
