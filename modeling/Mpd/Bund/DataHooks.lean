import Mathlib.Data.List.TakeWhile
import Mpd.Transition
import Mpd.Ccp.Pred1Session
import Mpd.Ecp.DeseBis

/-! The sockets over which the kernel has frames compressed and encrypted. A frame comes
with the name of the hook it was sent to: a letter for the direction and the number of
the bundle. -/

set_option autoImplicit false

namespace Mpd.Hooks

inductive Side where
  | output
  | input
  deriving DecidableEq, Repr

def isSpace (c : Char) : Bool :=
  c = ' ' || c = '\t' || c = '\n' || c = '\x0b' || c = '\x0c' || c = '\r'

/-- `strtol` to the base ten on a 64-bit machine: the number and the rest of the string. -/
def strtol (nptr : List Char) : Int × List Char :=
  let blank := nptr.dropWhile isSpace
  let (negative, digits) := match blank with
    | '-' :: digits => (true, digits)
    | '+' :: digits => (false, digits)
    | digits => (false, digits)
  match digits.takeWhile Char.isDigit with
  | [] => (0, nptr)
  | first :: others =>
      let value : Int := Nat.ofDigitChars 10 (first :: others) 0
      (max (-2 ^ 63) (min (2 ^ 63 - 1) (if negative then -value else value)),
        digits.dropWhile Char.isDigit)

section Sockets

variable {σ : Type}

structure DataBundle (σ : Type) where
  name : String
  dead : Bool
  state : σ

/-- `gBundles`, whose size is an `int`. -/
structure DataTable (σ : Type) where
  gBundles : List (Option (DataBundle σ))
  bounded : gBundles.length < 2 ^ 31

structure Written where
  hook : List Char
  name : String
  bp : Bytes
  deriving DecidableEq, Repr

structure DataWorld (σ : Type) where
  table : DataTable σ
  reached : List (Nat × Side)
  written : List Written

structure DataSocket (σ : Type) where
  letter : Char
  isOutput : List Char → Bool
  transform : Side → σ → Bytes → Option Bytes × σ

/-- The bundle at an `int` that the name gave; there is none outside of the table. -/
def DataTable.bundle (table : DataTable σ) (id : Int) : Option (DataBundle σ) :=
  if id < 0 then none else table.gBundles[id.toNat]?.join

def DataTable.store (table : DataTable σ) (id : Nat) (b : DataBundle σ) : DataTable σ where
  gBundles := table.gBundles.set id (some b)
  bounded := by simpa using table.bounded

def dataFrame (S : DataSocket σ) (w : DataWorld σ) (hook : List Char) (bp : Bytes) : DataWorld σ :=
  match hook with
  | [] => w
  | direction :: bundname =>
      if direction ≠ S.letter ∧ direction ≠ 'd' then w
      else if (strtol bundname).2 ≠ [] then w
      else
        let id := (strtol bundname).1.bmod (2 ^ 32)
        match w.table.bundle id with
        | none => w
        | some b =>
            if b.dead then w
            else
              let side := if S.isOutput hook then .output else .input
              let result := S.transform side b.state bp
              { table := w.table.store id.toNat { b with state := result.2 }
                reached := w.reached ++ [(id.toNat, side)]
                written := w.written ++ result.1.toList.map fun bp => ⟨hook, b.name, bp⟩ }

/-- A frame sent to a hook of the given side of a bundle, as `snprintf` named it. -/
structure HookFrame where
  side : Side
  id : Nat
  bp : Bytes
  isInt : id < 2 ^ 31
  deriving DecidableEq, Repr

def DataSocket.letterOf (S : DataSocket σ) : Side → Char
  | .output => S.letter
  | .input => 'd'

def DataSocket.hook (S : DataSocket σ) (side : Side) (id : Nat) : List Char :=
  S.letterOf side :: Nat.toDigits 10 id

def readFrame (S : DataSocket σ) (w : DataWorld σ) (frame : HookFrame) : DataWorld σ :=
  dataFrame S w (S.hook frame.side frame.id) frame.bp

/-- The loop of the handler over the frames that wait, where `num` frames have been read. -/
def ngDataEvent (S : DataSocket σ) : Nat → DataWorld σ → List HookFrame →
    DataWorld σ × List HookFrame
  | _, w, [] => (w, [])
  | num, w, frame :: waiting =>
      if num > 100 then (w, frame :: waiting)
      else ngDataEvent S (num + 1) (readFrame S w frame) waiting

def ngDataEvents (S : DataSocket σ) : Nat → DataWorld σ → List HookFrame →
    DataWorld σ × List HookFrame
  | 0, w, waiting => (w, waiting)
  | events + 1, w, waiting =>
      let after := ngDataEvent S 0 w waiting
      ngDataEvents S events after.1 after.2

/-- A daemon that reads its socket till nothing waits. -/
def drain (S : DataSocket σ) (table : DataTable σ) (waiting : List HookFrame) : DataWorld σ :=
  (ngDataEvents S waiting.length ⟨table, [], []⟩ waiting).1

end Sockets

/-- `ccp->xmit` and `ccp->recv`. Only Predictor-1 has `Compress` and `Decompress`; the others
work in the kernel. -/
inductive CompType where
  | mppc | deflate | pred1
  deriving DecidableEq, Repr

structure CcpData where
  xmit : Option CompType
  recv : Option CompType
  pred1 : Pred1Info

def ccpDataOutput (ccp : CcpData) (plain : Bytes) : Option Bytes × CcpData :=
  if ccp.xmit = some .pred1 then
    let comp := pred1Compress ccp.pred1 plain
    (some comp.1, { ccp with pred1 := comp.2 })
  else (none, ccp)

def ccpDataInput (ccp : CcpData) (comp : Bytes) : Option Bytes × CcpData :=
  if ccp.recv = some .pred1 then
    let plain := pred1Decompress ccp.pred1 comp
    (match plain.1 with
      | .frame mbuncomp => some mbuncomp
      | _ => none, { ccp with pred1 := plain.2 })
  else (none, ccp)

/-- The socket of `CcpNgDataEvent`: `bundname` has been moved beyond the letter when it is
compared with it. -/
def ccpSocket : DataSocket CcpData where
  letter := 'c'
  isOutput hook := hook.tail.head? == some 'c'
  transform
    | .output => ccpDataOutput
    | .input => ccpDataInput

inductive EncType where
  | dese | deseBis
  deriving DecidableEq, Repr

structure EcpData (δ : Type) where
  xmit : Option EncType
  recv : Option EncType
  dese : δ
  deseBis : DeseBisInfo

structure DeseCodec (δ : Type) where
  encrypt : δ → Bytes → Option Bytes × δ
  decrypt : δ → Bytes → Option Bytes × δ

section Ecp

variable {δ : Type}

def ecpDataOutput (codec : DeseCodec δ) (ecp : EcpData δ) (plain : Bytes) :
    Option Bytes × EcpData δ :=
  match ecp.xmit with
  | some .deseBis =>
      let cypher := deseBisEncrypt ecp.deseBis plain
      (some cypher.1, { ecp with deseBis := cypher.2 })
  | some .dese =>
      let cypher := codec.encrypt ecp.dese plain
      (cypher.1, { ecp with dese := cypher.2 })
  | none => (none, ecp)

def ecpDataInput (codec : DeseCodec δ) (ecp : EcpData δ) (cypher : Bytes) :
    Option Bytes × EcpData δ :=
  match ecp.recv with
  | some .deseBis =>
      let plain := deseBisDecrypt ecp.deseBis cypher
      (plain.1, { ecp with deseBis := plain.2 })
  | some .dese =>
      let plain := codec.decrypt ecp.dese cypher
      (plain.1, { ecp with dese := plain.2 })
  | none => (none, ecp)

/-- The socket of `EcpNgDataEvent`, which keeps the name it compares. -/
def ecpSocket (codec : DeseCodec δ) : DataSocket (EcpData δ) where
  letter := 'e'
  isOutput hook := hook.head? == some 'e'
  transform
    | .output => ecpDataOutput codec
    | .input => ecpDataInput codec

end Ecp

theorem isSpace_of_isDigit {c : Char} (digit : c.isDigit = true) : isSpace c = false := by
  rw [isSpace]
  rcases c with ⟨value, valid⟩
  simp [Char.isDigit, Char.ext_iff] at digit ⊢
  refine ⟨⟨⟨⟨⟨?_, ?_⟩, ?_⟩, ?_⟩, ?_⟩, ?_⟩ <;> rintro rfl <;> exact absurd digit.1 (by decide)

/-- A number that was printed is read again, and nothing is left. -/
theorem strtol_toDigits {id : Nat} (small : id < 2 ^ 31) :
    strtol (Nat.toDigits 10 id) = ((id : Int), []) := by
  have digits : ∀ c ∈ Nat.toDigits 10 id, c.isDigit = true := fun c member =>
    Nat.isDigit_of_mem_toDigits (by decide) (by decide) member
  have value := Nat.ofDigitChars_ten_toDigits (n := id)
  cases shape : Nat.toDigits 10 id with
  | nil => exact absurd shape Nat.toDigits_ne_nil
  | cons first others =>
      rw [shape] at digits value
      have first_digit := digits first List.mem_cons_self
      have no_blank : (first :: others).dropWhile isSpace = first :: others := by
        rw [List.dropWhile_cons_of_neg (by simp [isSpace_of_isDigit first_digit])]
      have all_taken : (first :: others).takeWhile Char.isDigit = first :: others :=
        List.takeWhile_eq_self_iff.mpr digits
      have none_left : (first :: others).dropWhile Char.isDigit = [] :=
        List.dropWhile_eq_nil_iff.mpr digits
      have unsigned : (match first :: others with
          | '-' :: digits => (true, digits)
          | '+' :: digits => (false, digits)
          | digits => (false, digits)) = (false, first :: others) := by
        split
        case h_1 same =>
            cases same
            exact absurd first_digit (by decide)
        case h_2 same =>
            cases same
            exact absurd first_digit (by decide)
        case h_3 => rfl
      unfold strtol
      simp only [no_blank, unsigned, all_taken, none_left, value]
      simp only [Bool.false_eq_true, if_false]
      congr 1
      omega

section Reading

variable {σ : Type} (S : DataSocket σ)

theorem ngDataEvent_eq (num : Nat) (w : DataWorld σ) (waiting : List HookFrame) :
    ngDataEvent S num w waiting =
      (Transition.run (readFrame S) w (waiting.take (101 - num)), waiting.drop (101 - num)) := by
  induction waiting generalizing num w with
  | nil => simp [ngDataEvent]
  | cons frame waiting ih =>
      rw [ngDataEvent]
      split
      case isTrue many => simp [show 101 - num = 0 by omega]
      case isFalse few =>
          obtain ⟨left, left_eq⟩ : ∃ left, 101 - num = left + 1 := ⟨100 - num, by omega⟩
          rw [ih, left_eq, show 101 - (num + 1) = left by omega]
          rfl

theorem ngDataEvents_eq (events : Nat) (w : DataWorld σ) (waiting : List HookFrame) :
    ngDataEvents S events w waiting =
      (Transition.run (readFrame S) w (waiting.take (101 * events)),
        waiting.drop (101 * events)) := by
  induction events generalizing w waiting with
  | zero => simp [ngDataEvents]
  | succ events ih =>
      simp only [ngDataEvents, ngDataEvent_eq, ih, ← Transition.run_append, List.drop_drop]
      rw [Nat.sub_zero, show 101 * (events + 1) = 101 + 101 * events by omega, List.take_add]

/-- A drained socket is one whose frames have been read one by one. -/
theorem drain_eq (table : DataTable σ) (waiting : List HookFrame) :
    drain S table waiting = Transition.run (readFrame S) ⟨table, [], []⟩ waiting := by
  rw [drain, ngDataEvents_eq, List.take_of_length_le (by omega)]

def DataSocket.takenFor (frame : HookFrame) : Side :=
  if S.isOutput (S.hook frame.side frame.id) then .output else .input

theorem bundle_ofNat (table : DataTable σ) (id : Nat) :
    table.bundle (id : Int) = table.gBundles[id]?.join := by
  rw [DataTable.bundle, if_neg (by omega)]
  rfl

/-- What one frame does: nothing, or one transform of the bundle it names. -/
theorem readFrame_eq (w : DataWorld σ) (frame : HookFrame) :
    readFrame S w frame =
      match w.table.bundle frame.id with
      | none => w
      | some b =>
          if b.dead then w
          else
            let result := S.transform (S.takenFor frame) b.state frame.bp
            { table := w.table.store frame.id { b with state := result.2 }
              reached := w.reached ++ [(frame.id, S.takenFor frame)]
              written := w.written ++ result.1.toList.map fun bp =>
                ⟨S.hook frame.side frame.id, b.name, bp⟩ } := by
  have known : ¬ (S.letterOf frame.side ≠ S.letter ∧ S.letterOf frame.side ≠ 'd') := by
    cases frame.side <;> simp [DataSocket.letterOf]
  have small := frame.isInt
  have whole : (frame.id : Int).bmod (2 ^ 32) = frame.id :=
    Int.bmod_eq_of_le (by omega) (by omega)
  rw [readFrame, DataSocket.hook, dataFrame]
  rw [if_neg known, strtol_toDigits small]
  simp only [ne_eq, not_true, if_false, whole, Int.toNat_natCast]
  rfl

def isLive (table : DataTable σ) (frame : HookFrame) : Bool :=
  (table.bundle frame.id).any fun b => !b.dead

theorem bundle_store {table : DataTable σ} {id : Nat} {b b' : DataBundle σ}
    (held : table.bundle id = some b) (other : Nat) :
    (table.store id b').bundle other = if other = id then some b' else table.bundle other := by
  rw [bundle_ofNat] at held
  have inside : id < table.gBundles.length := by
    rcases Nat.lt_or_ge id table.gBundles.length with inside | outside
    · exact inside
    · rw [List.getElem?_eq_none outside] at held
      exact absurd held nofun
  rw [bundle_ofNat, bundle_ofNat, DataTable.store]
  by_cases same : other = id
  · rw [same, List.getElem?_set_self inside, if_pos rfl]
    rfl
  · rw [List.getElem?_set_ne (Ne.symm same), if_neg same]

theorem isLive_readFrame (w : DataWorld σ) (frame other : HookFrame) :
    isLive (readFrame S w frame).table other = isLive w.table other := by
  rw [readFrame_eq]
  cases held : w.table.bundle frame.id with
  | none => rfl
  | some b =>
      dsimp only
      split
      · rfl
      · rw [isLive, isLive, bundle_store held]
        by_cases same : other.id = frame.id
        · rw [if_pos same, same, held]
          rfl
        · rw [if_neg same]

/-- Each frame for a bundle that is alive leads to one transform. -/
theorem reached_run (w : DataWorld σ) (waiting : List HookFrame) :
    (Transition.run (readFrame S) w waiting).reached =
      w.reached ++ (waiting.filter (isLive w.table)).map fun frame =>
        (frame.id, S.takenFor frame) := by
  induction waiting generalizing w with
  | nil => simp
  | cons frame waiting ih =>
      have same_live : isLive (readFrame S w frame).table = isLive w.table :=
        funext (isLive_readFrame S w frame)
      rw [Transition.run_cons, ih, same_live, readFrame_eq]
      cases held : w.table.bundle frame.id with
      | none => simp [isLive, held]
      | some b => by_cases dead : b.dead = true <;> simp [isLive, held, dead]

end Reading

end Mpd.Hooks
