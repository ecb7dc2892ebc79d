import Mpd.Ccp.Pred1Session
import Mpd.Ecp.DeseBis
import Mpd.Fsm.Defs

/-! The room that `BundUpdateParams` leaves for compression and encryption, against what the
two add to a frame. -/

set_option autoImplicit false

namespace Mpd

/-- `OPEN_STATE`, by the numbers of the states. -/
def FsmState.openState : FsmState → Bool
  | .initial | .closed | .closing => false
  | _ => true

def ccpOverhead : Int := 2
def ecpOverhead : Int := 2

def pred1SubtractBloat (size : Int) : Int := size - 4

/-- The header, whole blocks, and one byte of padding at least. -/
def deseBisSubtractBloat (size : Int) : Int :=
  let size := size - desOverhead
  let size := size - size % 8
  size - 1

structure XmitSide where
  state : FsmState
  xmit : Option (Int → Int)

def ccpSubtractBloat (ccp : XmitSide) (size : Int) : Int :=
  let size := if ccp.state.openState then ccp.xmit.elim size (· size) else size
  if ccp.state.openState then size - ccpOverhead else size

def ecpSubtractBloat (ecp : XmitSide) (size : Int) : Int :=
  let size := if ecp.state.openState then ecp.xmit.elim size (· size) else size
  if ecp.state.openState then size - ecpOverhead else size

/-- The last part of `BundUpdateParams`, for a bundle with links up. -/
def bundSubtractBloat (compression encryption : Bool) (ccp ecp : XmitSide) (mtu : Int) : Int :=
  let mtu := if compression then ccpSubtractBloat ccp mtu else mtu
  if encryption then ecpSubtractBloat ecp mtu else mtu

structure Negotiated where
  pred1 : Option Pred1Info
  dese : Option DeseBisInfo

namespace Negotiated

variable (n : Negotiated)

def ccp : XmitSide :=
  ⟨if n.pred1.isSome then .opened else .initial, n.pred1.map fun _ => pred1SubtractBloat⟩

def ecp : XmitSide :=
  ⟨if n.dese.isSome then .opened else .initial, n.dese.map fun _ => deseBisSubtractBloat⟩

/-- The interface MTU for a link MTU. -/
def mtu (m : Nat) : Int := bundSubtractBloat n.pred1.isSome n.dese.isSome n.ccp n.ecp m

/-- A frame on its way out. `inner` and `outer` are the protocol numbers in front of it before
it is compressed, and before it is encrypted. -/
def output (inner outer : UInt16) (frame : Bytes) : Bytes :=
  let frame := n.pred1.elim frame fun p => (pred1Compress p (putBe16 inner ++ frame)).1
  n.dese.elim frame fun des => (deseBisEncrypt des (putBe16 outer ++ frame)).1

end Negotiated

section Compression

/-- How many bytes are not guessed. -/
def misses : Guess → Bytes → Nat
  | _, [] => 0
  | g, x :: source => (if g.next = x then 0 else 1) + misses (g.advance x) source

theorem misses_append (g : Guess) (front back : Bytes) :
    misses g (front ++ back) = misses g front + misses (front.foldl Guess.advance g) back := by
  induction front generalizing g with
  | nil => simp [misses]
  | cons x front ih =>
      rw [List.cons_append, misses, misses, ih, List.foldl_cons, Nat.add_assoc]

theorem length_literals (left : Nat) (g : Guess) (source : Bytes) :
    (compressGroup left g source).literals.length = misses g (source.take left) := by
  induction left generalizing g source with
  | zero => simp [compressGroup, misses]
  | succ left ih =>
      cases source with
      | nil => simp [compressGroup, misses]
      | cons x source =>
          rw [List.take_succ_cons, misses]
          unfold compressGroup
          split_ifs with right
          · rw [Guess.advance_of_right right, Nat.zero_add]
            exact ih _ _
          · rw [Guess.advance_of_wrong right, Nat.add_comm]
            exact congrArg (· + 1) (ih _ _)

theorem misses_le_length_compress (g : Guess) (source : Bytes) :
    misses g source ≤ (compress g source).1.length := by
  induction g, source using compress.induct with
  | case1 g => simp [misses]
  | case2 g x source group ih =>
      have guess : group.guess = ((x :: source).take 8).foldl Guess.advance g :=
        guess_compressGroup 8 g (x :: source)
      have rest : group.source = (x :: source).drop 8 := source_compressGroup 8 g (x :: source)
      have split := misses_append g ((x :: source).take 8) ((x :: source).drop 8)
      rw [List.take_append_drop, ← guess, ← rest, ← length_literals] at split
      have literals : (group.flags :: group.literals ++ (compress group.guess group.source).1).length =
          group.literals.length + 1 + (compress group.guess group.source).1.length := by
        rw [List.length_append, List.length_cons]
      have same : (compressGroup 8 g (x :: source)).literals.length = group.literals.length := rfl
      rw [compress, split]
      refine Nat.le_trans ?_ (Nat.le_of_eq literals.symm)
      omega

/-- A byte that is guessed wrong, again and again. -/
def unguessed : Guess → Nat → Bytes
  | _, 0 => []
  | g, count + 1 => (g.next + 1) :: unguessed (g.advance (g.next + 1)) count

theorem length_unguessed (g : Guess) (count : Nat) : (unguessed g count).length = count := by
  induction count generalizing g with
  | zero => rfl
  | succ count ih => simp [unguessed, ih]

theorem misses_unguessed (g : Guess) (count : Nat) : misses g (unguessed g count) = count := by
  induction count generalizing g with
  | zero => rfl
  | succ count ih =>
      have wrong : g.next ≠ g.next + 1 := by
        intro same
        have : g.next.toNat = (g.next + 1).toNat := congrArg UInt8.toNat same
        rw [UInt8.toNat_add] at this
        simp at this
        omega
      rw [unguessed, misses, if_neg wrong, ih, Nat.add_comm]

/-- A frame behind two bytes may be such that next to nothing of it is saved. -/
theorem exists_incompressible (g : Guess) (front : Bytes) (count : Nat) :
    ∃ frame : Bytes, frame.length = count ∧ count ≤ (compress g (front ++ frame)).1.length := by
  refine ⟨unguessed (front.foldl Guess.advance g) count, length_unguessed _ _, ?_⟩
  have missed := misses_le_length_compress g (front ++ unguessed (front.foldl Guess.advance g) count)
  rw [misses_append, misses_unguessed] at missed
  omega

/-- Four bytes are added to what is compressed, or to the frame as it is, if that is shorter. -/
theorem length_pred1Compress (p : Pred1Info) (plain : Bytes) :
    (pred1Compress p plain).1.length = min (compress p.output plain).1.length plain.length + 4 := by
  unfold pred1Compress
  dsimp only
  split_ifs with shorter
  · simp [fcsBytes]
    omega
  · simp [fcsBytes]
    omega

end Compression

section Encryption

theorem length_deseBisEncrypt (des : DeseBisInfo) (plain : Bytes) :
    let size := (deseBisEncrypt des plain).1.length
    (size = 2 + (plain.length + 8) / 8 * 8 ∨ plain.length % 8 = 0 ∧ size = 2 + plain.length) := by
  intro size
  have padded (padlen : Nat) (whole : (plain.length + padlen) % 8 = 0) (xs : Bytes) :
      (deseHeader des.xmit_seq ++ (encryptBlocks des.ks ((plain.length + padlen) / 8) des.xmit_ivec
        xs).1).length = 2 + (plain.length + padlen) := by
    rw [List.length_append, length_encryptBlocks, length_deseHeader]
    omega
  have size_eq : size = (deseHeader des.xmit_seq ++ (encryptBlocks des.ks ((plain.length +
      desePadlen (deseHeader des.xmit_seq ++ plain) plain.length) / 8) des.xmit_ivec
      (plain ++ desePadding (desePadlen (deseHeader des.xmit_seq ++ plain) plain.length))).1).length :=
    rfl
  generalize spare : desePadlen (deseHeader des.xmit_seq ++ plain) plain.length = padlen at size_eq
  unfold desePadlen at spare
  dsimp only at spare
  split_ifs at spare with full
  · right
    obtain ⟨long, -⟩ := full
    rw [size_eq, padded padlen (by omega)]
    omega
  · left
    rw [size_eq, padded padlen (by omega)]
    omega

end Encryption

section Room

variable (n : Negotiated) (inner outer : UInt16)

/-- Every frame for the interface fits the link. -/
def FramesFit (m : Nat) : Prop :=
  ∀ frame : Bytes, (frame.length : Int) ≤ n.mtu m → (n.output inner outer frame).length ≤ m

theorem mtu_eq (m : Nat) :
    n.mtu m =
      let mtu : Int := if n.pred1.isSome then m - 6 else m
      if n.dese.isSome then mtu - 2 - (mtu - 2) % 8 - 3 else mtu := by
  obtain ⟨pred1, dese⟩ := n
  cases pred1 with
  | none =>
      cases dese with
      | none => rfl
      | some des =>
          change (m : Int) - 2 - ((m : Int) - 2) % 8 - 1 - 2 = _
          simp
          omega
  | some p =>
      cases dese with
      | none =>
          change (m : Int) - 4 - 2 = _
          simp
          omega
      | some des =>
          change (m : Int) - 4 - 2 - 2 - ((m : Int) - 4 - 2 - 2) % 8 - 1 - 2 = _
          simp
          omega

/-- The frame at the end of its way, by the one that is encrypted. -/
theorem length_output_le (frame : Bytes) :
    let packed := if n.pred1.isSome then frame.length + 6 else frame.length
    (n.output inner outer frame).length ≤
      if n.dese.isSome then 2 + (packed + 2 + 8) / 8 * 8 else packed := by
  obtain ⟨pred1, dese⟩ := n
  have packed : (pred1.elim frame fun p => (pred1Compress p (putBe16 inner ++ frame)).1).length ≤
      if pred1.isSome then frame.length + 6 else frame.length := by
    cases pred1 with
    | none => exact Nat.le_refl _
    | some p =>
        have size := length_pred1Compress p (putBe16 inner ++ frame)
        rw [List.length_append, length_putBe16] at size
        change (pred1Compress p (putBe16 inner ++ frame)).1.length ≤ frame.length + 6
        omega
  intro bound
  cases dese with
  | none => exact packed
  | some des =>
      have room : _ ≤ bound := packed
      change (deseBisEncrypt des (putBe16 outer ++
        pred1.elim frame fun p => (pred1Compress p (putBe16 inner ++ frame)).1)).1.length ≤
          2 + (bound + 2 + 8) / 8 * 8
      generalize (pred1.elim frame fun p => (pred1Compress p (putBe16 inner ++ frame)).1) =
        compressed at room
      generalize bound = bytes at room
      have size := length_deseBisEncrypt des (putBe16 outer ++ compressed)
      rw [List.length_append, length_putBe16] at size
      dsimp only at size
      omega

/-- With both transforms the last byte of room may be missing. -/
theorem exists_too_long (p : Pred1Info) (des : DeseBisInfo) {m : Nat}
    (large : 0 < (Negotiated.mk (some p) (some des)).mtu m) (short : m % 8 < 2) :
    ∃ frame : Bytes, (frame.length : Int) ≤ (Negotiated.mk (some p) (some des)).mtu m ∧
      m < ((Negotiated.mk (some p) (some des)).output inner outer frame).length := by
  rw [mtu_eq] at large ⊢
  simp only [Option.isSome_some, if_true] at large ⊢
  obtain ⟨frame, length, expanded⟩ := exists_incompressible p.output (putBe16 inner)
    ((m : Int) - 6 - 2 - ((m : Int) - 6 - 2) % 8 - 3).toNat
  refine ⟨frame, by omega, ?_⟩
  have packed := length_pred1Compress p (putBe16 inner ++ frame)
  have size := length_deseBisEncrypt des (putBe16 outer ++ (pred1Compress p (putBe16 inner ++ frame)).1)
  rw [List.length_append, length_putBe16] at size packed
  change m < (deseBisEncrypt des (putBe16 outer ++ (pred1Compress p (putBe16 inner ++ frame)).1)).1.length
  dsimp only at size
  omega

/-- The frames fit if and only if one transform at most is negotiated, or the link MTU is one
or two bytes off the multiples of eight that encryption rounds to. -/
theorem framesFit_iff (m : Nat) (large : 0 < n.mtu m) :
    FramesFit n inner outer m ↔ ¬ (n.pred1.isSome ∧ n.dese.isSome) ∨ 2 ≤ m % 8 := by
  constructor
  · intro fit
    obtain ⟨pred1, dese⟩ := n
    cases pred1 with
    | none => exact .inl (by simp)
    | some p =>
        cases dese with
        | none => exact .inl (by simp)
        | some des =>
            right
            by_contra short
            obtain ⟨frame, fits, long⟩ := exists_too_long inner outer p des large (not_le.mp short)
            exact absurd (fit frame fits) (not_le.mpr long)
  · intro roomy frame fits
    have size := length_output_le n inner outer frame
    rw [mtu_eq] at large fits
    dsimp only at size large fits
    cases pred1 : n.pred1.isSome <;> cases dese : n.dese.isSome <;>
      simp only [pred1, dese, if_true, Bool.false_eq_true, if_false, and_true, and_false, not_true,
        not_false_iff, true_or, false_or] at size large fits roomy <;>
      omega

end Room

/-- Both transforms, as they are when they come up. -/
def Negotiated.both : Negotiated := ⟨some .init, some (.init .shift)⟩

def protIp : UInt16 := 0x0021
def protCompd : UInt16 := 0x00fd

theorem mtu_both (m : Nat) :
    Negotiated.both.mtu m = (m : Int) - 6 - 2 - ((m : Int) - 6 - 2) % 8 - 3 :=
  mtu_eq Negotiated.both m

/-- The MTU of Ethernet leaves four bytes over. -/
theorem framesFit_ethernet :
    FramesFit .both protIp protCompd 1500 ↔ ¬ (true = true ∧ true = true) ∨ 2 ≤ 1500 % 8 :=
  framesFit_iff .both protIp protCompd 1500 (by rw [mtu_both]; decide)

/-- An MTU that is a multiple of eight leaves none. -/
theorem framesFit_not_1496 :
    Negotiated.both.mtu 1496 = 1485 ∧
      ∃ frame : Bytes, frame.length ≤ 1485 ∧
        1496 < (Negotiated.both.output protIp protCompd frame).length := by
  have mtu : Negotiated.both.mtu 1496 = 1485 := by
    rw [mtu_both]
    decide
  refine ⟨mtu, ?_⟩
  obtain ⟨frame, fits, long⟩ := exists_too_long protIp protCompd .init (.init .shift)
    (m := 1496) (by change 0 < Negotiated.both.mtu 1496; rw [mtu]; decide) (by decide)
  have fits : (frame.length : Int) ≤ Negotiated.both.mtu 1496 := fits
  rw [mtu] at fits
  exact ⟨frame, Int.ofNat_le.mp fits, long⟩

end Mpd
