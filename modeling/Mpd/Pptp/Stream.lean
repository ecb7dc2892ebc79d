import Mathlib.Algebra.GroupWithZero.Nat
import Mpd.Bytes

/-! The reader of a PPTP control connection, `PptpCtrlReadCtrl` of `pptp_ctrl.c`: frames that
are put together from whatever each `read` returns, and their byte order. -/

set_option autoImplicit false

namespace Mpd.PptpStream

def gPptpMsgLayout : List (List Nat) :=
  [[2, 2, 4, 2, 2],
    [2, 2, 4, 4, 2, 2, 64, 64],
    [2, 1, 1, 4, 4, 2, 2, 64, 64],
    [1, 1, 2],
    [1, 1, 2],
    [4],
    [4, 1, 1, 2],
    [2, 2, 4, 4, 4, 4, 2, 2, 2, 2, 64, 64],
    [2, 2, 1, 1, 2, 4, 2, 2, 4],
    [2, 2, 4, 4, 2, 2, 64, 64, 64],
    [2, 2, 1, 1, 2, 2, 2],
    [2, 2, 4, 2, 2, 4],
    [2, 2],
    [2, 1, 1, 2, 2, 128],
    [2, 2, 4, 4, 4, 4, 4, 4],
    [2, 2, 4, 4]]

def gPptpMsgLength : List Nat :=
  [12, 144, 144, 4, 4, 4, 8, 156, 20, 208, 12, 16, 4, 136, 28, 12]

def layout (type : Nat) : List Nat := gPptpMsgLayout.getD type []
def msgLength (type : Nat) : Nat := gPptpMsgLength.getD type 0

def headSize : Nat := 12
def pptpCtrlMaxFrame : Nat := headSize + 208

def pptpCtrlMsgType : Nat := 1
def pptpMagic : Nat := 0x1A2B3C4D

def validCtrlType (type : Nat) : Bool := 1 ≤ type && type < 16

inductive Host where
  | littleEndian | bigEndian
  deriving DecidableEq

/-- `ntohs` and `ntohl` on the bytes in memory. -/
def Host.order : Host → Bytes → Bytes
  | littleEndian, bytes => bytes.reverse
  | bigEndian, bytes => bytes

def netField (mem : Bytes) (off len : Nat) : Nat :=
  ((mem.drop off).take len).foldl (fun x c => x * 256 + c.toNat) 0

def Host.field (host : Host) (mem : Bytes) (off len : Nat) : Nat :=
  (host.order ((mem.drop off).take len)).foldl (fun x c => x * 256 + c.toNat) 0

/-- The loop of `PptpCtrlSwap`. -/
def swapFields (host : Host) : List Nat → Bytes → Bytes
  | [], buf => buf
  | length :: fields, buf =>
      let field := buf.take length
      (if length = 4 ∨ length = 2 then host.order field else field) ++
        swapFields host fields (buf.drop length)

def pptpCtrlSwap (host : Host) (type : Nat) (buf : Bytes) : Bytes :=
  swapFields host (layout type) buf

/-- A message that `PptpCtrlMsg` is called with, in host order. -/
structure Message where
  type : Nat
  payload : Bytes
  deriving DecidableEq

/-- The part of `struct pptpctrl` that reading is about, with the messages so far. -/
structure Reader where
  frame : Bytes
  flen : Nat
  messages : List Message
  alive : Bool

inductive ReadResult where
  | data (bytes : Bytes)
  | again
  | failed

def Reader.kill (r : Reader) : Reader := { r with alive := false }

def Reader.new : Reader := ⟨List.replicate pptpCtrlMaxFrame 0, 0, [], true⟩

section
variable (host : Host)

def Reader.nread (r : Reader) : Nat :=
  (if r.flen < headSize then headSize else host.field r.frame 0 2) - r.flen

def headerOk (frame : Bytes) : Bool :=
  host.field frame 2 2 = pptpCtrlMsgType && host.field frame 4 4 = pptpMagic &&
    validCtrlType (host.field frame 8 2) &&
    host.field frame 0 2 = headSize + msgLength (host.field frame 8 2)

variable (survives : List Message → Bool)

/-- `PptpCtrlReadCtrl`. `survives` says whether the connection is still there when the last
message has been handled. -/
def pptpCtrlReadCtrl (r : Reader) : ReadResult → Reader
  | .again => r
  | .failed => r.kill
  | .data bytes =>
      let frame := r.frame.take r.flen ++ bytes ++ r.frame.drop (r.flen + bytes.length)
      let flen := r.flen + bytes.length
      if flen < headSize then { r with frame, flen }
      else if flen = headSize then
        let frame := pptpCtrlSwap host 0 frame
        let r := { r with frame, flen }
        if headerOk host frame then r else r.kill
      else if flen = host.field frame 0 2 then
        let type := host.field frame 8 2
        let frame := frame.take headSize ++ pptpCtrlSwap host type (frame.drop headSize)
        let msg : Message := ⟨type, (frame.drop headSize).take (msgLength type)⟩
        let r := { r with frame, flen := 0, messages := r.messages ++ [msg] }
        if survives r.messages then r else r.kill
      else { r with frame, flen }

/-- Reading a stream. The read number `i` returns `cut i + 1` bytes, or as many as are asked for
or left. What is not read when the connection is gone stays. -/
def readAll (cut : Nat → Nat) (r : Reader) (stream : Bytes) : Reader × Bytes :=
  if h : stream = [] ∨ r.alive = false then (r, stream)
  else
    let count := min (cut 0 + 1) (r.nread host)
    if count = 0 then (pptpCtrlReadCtrl host survives r .failed, stream)
    else
      readAll (fun i => cut (i + 1))
        (pptpCtrlReadCtrl host survives r (.data (stream.take count))) (stream.drop count)
  termination_by stream.length
  decreasing_by
    rw [not_or] at h
    have left := List.length_pos_iff.mpr h.1
    rw [List.length_drop]
    omega

/-- What a stream comes to: the messages, whether the connection is still there, and what is
not read. -/
structure Parsed where
  messages : List Message
  alive : Bool
  unread : Bytes

def headerValid (stream : Bytes) : Bool :=
  netField stream 2 2 = pptpCtrlMsgType && netField stream 4 4 = pptpMagic &&
    validCtrlType (netField stream 8 2) &&
    netField stream 0 2 = headSize + msgLength (netField stream 8 2)

def parseStream (done : List Message) (stream : Bytes) : Parsed :=
  if stream.length < headSize then ⟨done, true, []⟩
  else if headerValid stream = false then ⟨done, false, stream.drop headSize⟩
  else
    let type := netField stream 8 2
    let total := headSize + msgLength type
    if stream.length < total then ⟨done, true, []⟩
    else
      let payload := (stream.drop headSize).take (msgLength type)
      let done := done ++ [⟨type, pptpCtrlSwap host type payload⟩]
      if survives done then parseStream done (stream.drop total)
      else ⟨done, false, stream.drop total⟩
  termination_by stream.length
  decreasing_by
    rw [List.length_drop]
    unfold headSize at *
    omega

end

section Swapping

variable {host : Host}

theorem Host.length_order (bytes : Bytes) : (host.order bytes).length = bytes.length := by
  cases host with
  | littleEndian => exact List.length_reverse
  | bigEndian => rfl

theorem Host.order_order (bytes : Bytes) : host.order (host.order bytes) = bytes := by
  cases host with
  | littleEndian => exact List.reverse_reverse bytes
  | bigEndian => rfl

theorem length_swapFields (fields : List Nat) (buf : Bytes) :
    (swapFields host fields buf).length = buf.length := by
  induction fields generalizing buf with
  | nil => rfl
  | cons length fields ih =>
      unfold swapFields
      dsimp only
      rw [List.length_append, ih, apply_ite List.length, Host.length_order, ite_self,
        List.length_take, List.length_drop]
      omega

theorem swapFields_append (fields : List Nat) {front : Bytes} (whole : fields.sum = front.length)
    (back : Bytes) : swapFields host fields (front ++ back) = swapFields host fields front ++ back := by
  induction fields generalizing front with
  | nil => rfl
  | cons length fields ih =>
      rw [List.sum_cons] at whole
      have inside : length ≤ front.length := by omega
      have later : fields.sum = (front.drop length).length := by
        rw [List.length_drop]
        omega
      unfold swapFields
      dsimp only
      rw [List.take_append_of_le_length inside, List.drop_append_of_le_length inside, ih later,
        List.append_assoc]

theorem swapFields_swapFields (fields : List Nat) (buf : Bytes) :
    swapFields host fields (swapFields host fields buf) = buf := by
  induction fields generalizing buf with
  | nil => rfl
  | cons length fields ih =>
      have later := @length_swapFields host fields (buf.drop length)
      have again : swapFields host (length :: fields) buf =
          (if length = 4 ∨ length = 2 then host.order (buf.take length) else buf.take length) ++
            swapFields host fields (buf.drop length) := rfl
      have field_length : (if length = 4 ∨ length = 2 then host.order (buf.take length)
          else buf.take length).length = (buf.take length).length := by
        rw [apply_ite List.length, Host.length_order, ite_self]
      rw [List.length_take] at field_length
      rw [List.length_drop] at later
      generalize field_eq : (if length = 4 ∨ length = 2 then host.order (buf.take length)
        else buf.take length) = field at again field_length
      -- the field and what follows it stand where they stood
      have parts : (swapFields host (length :: fields) buf).take length = field ∧
          (swapFields host (length :: fields) buf).drop length =
            swapFields host fields (buf.drop length) := by
        rw [again]
        by_cases inside : length ≤ buf.length
        · rw [Nat.min_eq_left inside] at field_length
          exact ⟨List.take_left' field_length, List.drop_left' field_length⟩
        · have nothing : swapFields host fields (buf.drop length) = [] :=
            List.eq_nil_of_length_eq_zero (by omega)
          rw [nothing, List.append_nil]
          exact ⟨List.take_of_length_le (by omega), List.drop_of_length_le (by omega)⟩
      have back : (if length = 4 ∨ length = 2 then host.order field else field) =
          buf.take length := by
        rw [← field_eq]
        split
        · exact Host.order_order _
        · rfl
      have swapped : swapFields host (length :: fields) (swapFields host (length :: fields) buf) =
          (if length = 4 ∨ length = 2
            then host.order ((swapFields host (length :: fields) buf).take length)
            else (swapFields host (length :: fields) buf).take length) ++
          swapFields host fields ((swapFields host (length :: fields) buf).drop length) := rfl
      rw [swapped, parts.1, parts.2, ih, back, List.take_append_drop]

theorem pptpCtrlSwap_pptpCtrlSwap (type : Nat) (buf : Bytes) :
    pptpCtrlSwap host type (pptpCtrlSwap host type buf) = buf :=
  swapFields_swapFields (layout type) buf

theorem msgLength_bounds {type : Nat} (valid : validCtrlType type = true) :
    (layout type).sum = msgLength type ∧ 0 < msgLength type ∧
      headSize + msgLength type ≤ pptpCtrlMaxFrame := by
  have rows : ∀ type < 16, validCtrlType type = true → (layout type).sum = msgLength type ∧
      0 < msgLength type ∧ headSize + msgLength type ≤ pptpCtrlMaxFrame := by decide
  refine rows type ?_ valid
  simp only [validCtrlType, Bool.and_eq_true, decide_eq_true_eq] at valid
  exact valid.2

end Swapping

section Headers

variable {host : Host}

theorem swap_header_append {mem : Bytes} (whole : headSize ≤ mem.length) (back : Bytes) :
    pptpCtrlSwap host 0 (mem ++ back) = pptpCtrlSwap host 0 mem ++ back := by
  have sum : (layout 0).sum = (mem.take headSize).length := by
    rw [List.length_take, Nat.min_eq_left whole]
    rfl
  have parts := List.take_append_drop headSize mem
  have all := @swapFields_append host (layout 0) _ sum (mem.drop headSize ++ back)
  have own := @swapFields_append host (layout 0) _ sum (mem.drop headSize)
  rw [← List.append_assoc, parts] at all
  rw [parts] at own
  unfold pptpCtrlSwap
  rw [all, own, List.append_assoc]

theorem netField_append {mem : Bytes} {off len : Nat} (inside : off + len ≤ mem.length)
    (back : Bytes) : netField (mem ++ back) off len = netField mem off len := by
  unfold netField
  rw [List.drop_append_of_le_length (by omega),
    List.take_append_of_le_length (by rw [List.length_drop]; omega)]

/-- A header that is swapped has in host order what it had in network order. -/
theorem field_swap_header {mem : Bytes} (whole : headSize ≤ mem.length) :
    host.field (pptpCtrlSwap host 0 mem) 0 2 = netField mem 0 2 ∧
      host.field (pptpCtrlSwap host 0 mem) 2 2 = netField mem 2 2 ∧
      host.field (pptpCtrlSwap host 0 mem) 4 4 = netField mem 4 4 ∧
      host.field (pptpCtrlSwap host 0 mem) 8 2 = netField mem 8 2 := by
  match mem, whole with
  | a :: b :: c :: d :: e :: f :: g :: h :: i :: j :: k :: l :: mem, _ =>
      cases host with
      | littleEndian => exact ⟨rfl, rfl, rfl, rfl⟩
      | bigEndian => exact ⟨rfl, rfl, rfl, rfl⟩

theorem headerOk_swap {mem : Bytes} (whole : headSize ≤ mem.length) :
    headerOk host (pptpCtrlSwap host 0 mem) = headerValid mem := by
  obtain ⟨length, msgType, magic, type⟩ := @field_swap_header host _ whole
  unfold headerOk headerValid
  rw [length, msgType, magic, type]

theorem headerValid_append {mem : Bytes} (whole : headSize ≤ mem.length) (back : Bytes) :
    headerValid (mem ++ back) = headerValid mem := by
  unfold headSize at whole
  unfold headerValid
  rw [netField_append (by omega), netField_append (by omega), netField_append (by omega),
    netField_append (by omega)]

theorem headerValid_length {mem : Bytes} (valid : headerValid mem = true) :
    validCtrlType (netField mem 8 2) = true ∧
      netField mem 0 2 = headSize + msgLength (netField mem 8 2) := by
  simp only [headerValid, Bool.and_eq_true, decide_eq_true_eq] at valid
  exact ⟨valid.1.2, valid.2⟩

end Headers

section Reading

variable {host : Host} {survives : List Message → Bool}

/-- The frame when the bytes of `pending` have been read: a whole header is swapped. -/
def image (host : Host) (pending : Bytes) : Bytes :=
  if pending.length < headSize then pending else pptpCtrlSwap host 0 pending

structure Holding (host : Host) (r : Reader) (pending : Bytes) : Prop where
  alive : r.alive = true
  size : r.frame.length = pptpCtrlMaxFrame
  flen : r.flen = pending.length
  front : r.frame.take pending.length = image host pending
  header : headSize ≤ pending.length →
    headerValid pending = true ∧ pending.length < netField pending 0 2

/-- The frame buffer is its size, and as much of it is asked for as there is room for. -/
structure Bounded (host : Host) (r : Reader) : Prop where
  size : r.frame.length = pptpCtrlMaxFrame
  flen : r.flen ≤ pptpCtrlMaxFrame
  asks : r.alive = true → 0 < r.nread host ∧ r.flen + r.nread host ≤ pptpCtrlMaxFrame

theorem holding_new : Holding host .new [] :=
  ⟨rfl, List.length_replicate, rfl, rfl, fun whole => absurd whole (by decide)⟩

/-- The number of bytes that a message ends at, as far as that is known. -/
def target (pending : Bytes) : Nat :=
  if pending.length < headSize then headSize else netField pending 0 2

theorem Holding.nread {r : Reader} {pending : Bytes} (holding : Holding host r pending) :
    r.nread host = target pending - pending.length := by
  unfold Reader.nread target
  rw [holding.flen]
  split
  · rfl
  · rename_i whole
    rw [Nat.not_lt] at whole
    have front := holding.front
    rw [image, if_neg (Nat.not_lt.mpr whole)] at front
    have field : host.field r.frame 0 2 = host.field (r.frame.take pending.length) 0 2 := by
      unfold Host.field headSize at *
      rw [List.drop_zero, List.drop_zero, List.take_take, Nat.min_eq_left (by omega)]
    rw [field, front, (field_swap_header whole).1]

theorem Holding.target_bounds {r : Reader} {pending : Bytes} (holding : Holding host r pending) :
    pending.length < target pending ∧ target pending ≤ pptpCtrlMaxFrame := by
  unfold target
  split
  · rename_i short
    exact ⟨short, by decide⟩
  · rename_i whole
    obtain ⟨valid, inside⟩ := holding.header (Nat.not_lt.mp whole)
    obtain ⟨type, total⟩ := headerValid_length valid
    exact ⟨inside, total ▸ (msgLength_bounds type).2.2⟩

theorem Holding.bounded {r : Reader} {pending : Bytes} (holding : Holding host r pending) :
    Bounded host r := by
  obtain ⟨inside, room⟩ := holding.target_bounds
  have asked := holding.nread
  have flen := holding.flen
  exact ⟨holding.size, by omega, fun _ => by omega⟩

theorem Holding.frame_read {r : Reader} {pending : Bytes} (holding : Holding host r pending)
    {bytes : Bytes} (few : bytes.length ≤ r.nread host) :
    ∃ tail, r.frame.take r.flen ++ bytes ++ r.frame.drop (r.flen + bytes.length) =
        image host pending ++ bytes ++ tail ∧
      (image host pending ++ bytes ++ tail).length = pptpCtrlMaxFrame := by
  obtain ⟨inside, room⟩ := holding.target_bounds
  have asked := holding.nread
  have size := holding.size
  have flen := holding.flen
  refine ⟨r.frame.drop (r.flen + bytes.length), ?_, ?_⟩
  · rw [← holding.front, holding.flen]
  · rw [← holding.front, ← holding.flen]
    simp only [List.length_append, List.length_take, List.length_drop]
    omega

theorem image_append {pending : Bytes} (whole : headSize ≤ pending.length) (bytes : Bytes) :
    image host pending ++ bytes = image host (pending ++ bytes) := by
  have longer : headSize ≤ (pending ++ bytes).length := by
    rw [List.length_append]
    omega
  rw [image, image, if_neg (Nat.not_lt.mpr whole), if_neg (Nat.not_lt.mpr longer),
    swap_header_append whole]

theorem length_image (pending : Bytes) : (image host pending).length = pending.length := by
  unfold image
  rw [apply_ite List.length, pptpCtrlSwap, length_swapFields, ite_self]

theorem field_image {pending : Bytes} (whole : headSize ≤ pending.length) (tail : Bytes) :
    host.field (image host pending ++ tail) 0 2 = netField pending 0 2 ∧
      host.field (image host pending ++ tail) 8 2 = netField pending 8 2 := by
  have longer : headSize ≤ (pending ++ tail).length := by
    rw [List.length_append]
    omega
  obtain ⟨length, -, -, type⟩ := @field_swap_header host _ longer
  unfold headSize at whole
  rw [image, if_neg (by unfold headSize; omega), ← swap_header_append (by unfold headSize; omega),
    length, type, netField_append (by omega), netField_append (by omega)]
  exact ⟨rfl, rfl⟩

section Parse

variable (done : List Message)

theorem parseStream_short {stream : Bytes} (short : stream.length < headSize) :
    parseStream host survives done stream = ⟨done, true, []⟩ := by
  rw [parseStream, if_pos short]

theorem parseStream_invalid {header : Bytes} (whole : header.length = headSize)
    (invalid : headerValid header = false) (later : Bytes) :
    parseStream host survives done (header ++ later) = ⟨done, false, later⟩ := by
  have long : ¬ (header ++ later).length < headSize := by
    rw [List.length_append]
    omega
  rw [parseStream, if_neg long, headerValid_append (Nat.le_of_eq whole.symm), if_pos invalid,
    ← whole, List.drop_left]

theorem parseStream_unended {pending : Bytes} (whole : headSize ≤ pending.length)
    (valid : headerValid pending = true) (inside : pending.length < netField pending 0 2) :
    parseStream host survives done pending = ⟨done, true, []⟩ := by
  obtain ⟨-, total⟩ := headerValid_length valid
  rw [parseStream, if_neg (Nat.not_lt.mpr whole), if_neg (by simp [valid])]
  dsimp only
  rw [if_pos (total ▸ inside)]

theorem parseStream_message {message : Bytes} (valid : headerValid message = true)
    (whole : message.length = netField message 0 2) (later : Bytes) :
    let type := netField message 8 2
    let msg : Message := ⟨type, pptpCtrlSwap host type (message.drop headSize)⟩
    parseStream host survives done (message ++ later) =
      if survives (done ++ [msg]) then parseStream host survives (done ++ [msg]) later
      else ⟨done ++ [msg], false, later⟩ := by
  obtain ⟨-, total⟩ := headerValid_length valid
  have size : message.length = headSize + msgLength (netField message 8 2) := whole.trans total
  have head : headSize ≤ message.length := by omega
  have type : netField (message ++ later) 8 2 = netField message 8 2 :=
    netField_append (by unfold headSize at head; omega) later
  have long : ¬ (message ++ later).length < headSize := by
    rw [List.length_append]
    omega
  have enough : ¬ (message ++ later).length < headSize + msgLength (netField message 8 2) := by
    rw [List.length_append]
    omega
  have payload : ((message ++ later).drop headSize).take (msgLength (netField message 8 2)) =
      message.drop headSize := by
    rw [List.drop_append_of_le_length head]
    exact List.take_left' (by rw [List.length_drop]; omega)
  have rest : (message ++ later).drop (headSize + msgLength (netField message 8 2)) = later :=
    List.drop_left' size
  rw [parseStream, if_neg long, headerValid_append head, if_neg (by simp [valid])]
  dsimp only
  rw [type, if_neg enough, payload, rest]

end Parse

structure Follows (host : Host) (survives : List Message → Bool) (done : List Message)
    (read : Bytes) (r : Reader) : Prop where
  bounded : Bounded host r
  parse : (∃ pending, Holding host r pending ∧ ∀ later,
      parseStream host survives done (read ++ later) =
        parseStream host survives r.messages (pending ++ later)) ∨
    (r.alive = false ∧ ∀ later,
      parseStream host survives done (read ++ later) = ⟨r.messages, false, later⟩)

theorem Holding.follows {done : List Message} {read : Bytes} {r : Reader}
    (holding : Holding host r read) (same : r.messages = done) :
    Follows host survives done read r :=
  ⟨holding.bounded, .inl ⟨read, holding, fun _ => by rw [same]⟩⟩

theorem follows_header {r : Reader} {header tail : Bytes} (alive : r.alive = true)
    (whole : header.length = headSize) (size : (header ++ tail).length = pptpCtrlMaxFrame) :
    Follows host survives r.messages header
      (if headerOk host (pptpCtrlSwap host 0 (header ++ tail))
        then { r with frame := pptpCtrlSwap host 0 (header ++ tail), flen := headSize }
        else Reader.kill
          { r with frame := pptpCtrlSwap host 0 (header ++ tail), flen := headSize }) := by
  have swapped : (pptpCtrlSwap host 0 (header ++ tail)).length = pptpCtrlMaxFrame := by
    rw [pptpCtrlSwap, length_swapFields, size]
  have long : headSize ≤ (header ++ tail).length := by
    rw [List.length_append]
    omega
  rw [headerOk_swap long, headerValid_append (Nat.le_of_eq whole.symm)]
  cases valid : headerValid header with
  | true =>
      rw [if_pos rfl]
      refine Holding.follows ⟨alive, swapped, whole.symm, ?_, fun _ => ⟨valid, ?_⟩⟩ rfl
      · rw [image, if_neg (by omega), swap_header_append (Nat.le_of_eq whole.symm)]
        exact List.take_left' (by rw [pptpCtrlSwap, length_swapFields])
      · obtain ⟨type, total⟩ := headerValid_length valid
        have some := (msgLength_bounds type).2.1
        omega
  | false =>
      rw [if_neg Bool.false_ne_true]
      exact ⟨⟨swapped, Nat.le_add_right headSize 208, nofun⟩,
        .inr ⟨rfl, fun later => parseStream_invalid r.messages whole valid later⟩⟩

theorem follows_message {r : Reader} {message tail : Bytes} (alive : r.alive = true)
    (valid : headerValid message = true) (whole : message.length = netField message 0 2)
    (size : (image host message ++ tail).length = pptpCtrlMaxFrame) :
    let type := host.field (image host message ++ tail) 8 2
    let frame := (image host message ++ tail).take headSize ++
      pptpCtrlSwap host type ((image host message ++ tail).drop headSize)
    let msg : Message := ⟨type, (frame.drop headSize).take (msgLength type)⟩
    Follows host survives r.messages message
      (if survives (r.messages ++ [msg])
        then { r with frame, flen := 0, messages := r.messages ++ [msg] }
        else Reader.kill { r with frame, flen := 0, messages := r.messages ++ [msg] }) := by
  obtain ⟨type, total⟩ := headerValid_length valid
  obtain ⟨sum, -, -⟩ := msgLength_bounds type
  have head : headSize ≤ message.length := by omega
  have parts := List.take_append_drop headSize message
  have first : (message.take headSize).length = headSize := by
    rw [List.length_take, Nat.min_eq_left head]
  have swapped : image host message =
      pptpCtrlSwap host 0 (message.take headSize) ++ message.drop headSize := by
    rw [image, if_neg (Nat.not_lt.mpr head), ← swap_header_append (Nat.le_of_eq first.symm), parts]
  have front : (pptpCtrlSwap host 0 (message.take headSize)).length = headSize := by
    rw [pptpCtrlSwap, length_swapFields, first]
  have payload : (image host message ++ tail).drop headSize = message.drop headSize ++ tail := by
    rw [swapped, List.append_assoc]
    exact List.drop_left' front
  have size_payload : (layout (netField message 8 2)).sum = (message.drop headSize).length := by
    rw [List.length_drop]
    omega
  dsimp only
  rw [(field_image head tail).2, payload]
  generalize frame_eq : (image host message ++ tail).take headSize ++
    pptpCtrlSwap host (netField message 8 2) (message.drop headSize ++ tail) = frame
  have frame_size : frame.length = pptpCtrlMaxFrame := by
    rw [← frame_eq, ← size, pptpCtrlSwap, List.length_append, length_swapFields, ← payload,
      ← List.length_append, List.take_append_drop]
  have read : (frame.drop headSize).take (msgLength (netField message 8 2)) =
      pptpCtrlSwap host (netField message 8 2) (message.drop headSize) := by
    have taken : ((image host message ++ tail).take headSize).length = headSize := by
      rw [List.length_take, size]
      rfl
    rw [← frame_eq, List.drop_left' taken, pptpCtrlSwap, pptpCtrlSwap,
      swapFields_append _ size_payload]
    refine List.take_left' ?_
    rw [length_swapFields, ← size_payload, sum]
  rw [read]
  have parsed := @parseStream_message host survives r.messages _ valid whole
  cases lives : survives (r.messages ++
      [⟨netField message 8 2,
        pptpCtrlSwap host (netField message 8 2) (message.drop headSize)⟩]) with
  | true =>
      rw [if_pos rfl]
      have holding : Holding host { r with
          frame, flen := 0, messages := r.messages ++ [⟨netField message 8 2,
            pptpCtrlSwap host (netField message 8 2) (message.drop headSize)⟩] } [] :=
        ⟨alive, frame_size, rfl, rfl, fun long => absurd long (by decide)⟩
      refine ⟨holding.bounded, .inl ⟨[], holding, fun later => ?_⟩⟩
      exact (parsed later).trans (if_pos lives)
  | false =>
      rw [if_neg Bool.false_ne_true]
      refine ⟨⟨frame_size, Nat.zero_le _, nofun⟩, .inr ⟨rfl, fun later => ?_⟩⟩
      exact (parsed later).trans (if_neg (by simp [lives]))

theorem Holding.read {r : Reader} {pending bytes : Bytes} (holding : Holding host r pending)
    (some : bytes ≠ []) (few : bytes.length ≤ r.nread host) :
    Follows host survives r.messages (pending ++ bytes)
      (pptpCtrlReadCtrl host survives r (.data bytes)) := by
  obtain ⟨inside, room⟩ := holding.target_bounds
  have asked := holding.nread
  have flen := holding.flen
  have alive := holding.alive
  have length : (pending ++ bytes).length = r.flen + bytes.length := by
    rw [List.length_append, flen]
  have more := List.length_pos_iff.mpr some
  obtain ⟨tail, frame, size⟩ := holding.frame_read few
  unfold pptpCtrlReadCtrl
  dsimp only
  rw [frame, ← length]
  by_cases short : pending.length < headSize
  · have own : image host pending = pending := if_pos short
    have bound : target pending = headSize := if_pos short
    rw [own] at size ⊢
    by_cases incomplete : (pending ++ bytes).length < headSize
    · rw [if_pos incomplete]
      refine Holding.follows ⟨alive, size, rfl, ?_, fun long => ?_⟩ rfl
      · rw [image, if_pos incomplete]
        exact List.take_left
      · exact absurd incomplete (Nat.not_lt.mpr long)
    · have complete : (pending ++ bytes).length = headSize := by omega
      rw [if_neg incomplete, if_pos complete]
      have header := @follows_header host survives _ _ _ alive complete size
      rw [← complete] at header
      exact header
  · have whole : headSize ≤ pending.length := Nat.not_lt.mp short
    have bound : target pending = netField pending 0 2 := if_neg short
    have longer : headSize ≤ (pending ++ bytes).length := by omega
    obtain ⟨valid, -⟩ := holding.header whole
    have valid' : headerValid (pending ++ bytes) = true := (headerValid_append whole bytes).trans valid
    have total : netField (pending ++ bytes) 0 2 = netField pending 0 2 :=
      netField_append (by unfold headSize at whole; omega) bytes
    rw [image_append whole] at size ⊢
    rw [if_neg (Nat.not_lt.mpr longer), if_neg (by omega), (field_image longer tail).1]
    split
    · rename_i complete
      exact follows_message alive valid' complete size
    · rename_i incomplete
      refine Holding.follows ⟨alive, size, rfl, ?_, fun _ => ⟨valid', ?_⟩⟩ rfl
      · exact List.take_left' (length_image _)
      · omega

/-- A stream that is read in any pieces, from a reader that holds `pending`. -/
theorem readAll_parse (cut : Nat → Nat) {r : Reader} {pending : Bytes}
    (holding : Holding host r pending) (stream : Bytes) :
    let run := readAll host survives cut r stream
    (⟨run.1.messages, run.1.alive, run.2⟩ : Parsed) =
      parseStream host survives r.messages (pending ++ stream) ∧ Bounded host run.1 := by
  induction size : stream.length using Nat.strongRecOn generalizing cut r pending stream with
  | ind size' ih =>
      dsimp only
      by_cases ended : stream = []
      · subst ended
        have stops : readAll host survives cut r [] = (r, []) := by
          rw [readAll, dif_pos (.inl rfl)]
        rw [stops, List.append_nil]
        refine ⟨?_, holding.bounded⟩
        rw [holding.alive]
        by_cases short : pending.length < headSize
        · exact (parseStream_short r.messages short).symm
        · obtain ⟨valid, inside⟩ := holding.header (Nat.not_lt.mp short)
          exact (parseStream_unended r.messages (Nat.not_lt.mp short) valid inside).symm
      · have asks := (holding.bounded.asks holding.alive).1
        have left := List.length_pos_iff.mpr ended
        have goes_on : ¬ (stream = [] ∨ r.alive = false) := by
          rw [not_or]
          exact ⟨ended, by simp [holding.alive]⟩
        generalize count_eq : min (cut 0 + 1) (r.nread host) = count
        have positive : count ≠ 0 := by omega
        have step : readAll host survives cut r stream =
            readAll host survives (fun i => cut (i + 1))
              (pptpCtrlReadCtrl host survives r (.data (stream.take count))) (stream.drop count) := by
          rw [readAll, dif_neg goes_on]
          dsimp only
          rw [count_eq, if_neg positive]
        have parts := List.take_append_drop count stream
        have some : stream.take count ≠ [] := by simp [positive, ended]
        have few : (stream.take count).length ≤ r.nread host := by
          rw [List.length_take]
          omega
        have follows := @Holding.read host survives _ _ _ holding some few
        rw [step]
        generalize pptpCtrlReadCtrl host survives r (.data (stream.take count)) = r' at follows
        have whole : pending ++ stream = pending ++ stream.take count ++ stream.drop count := by
          rw [List.append_assoc, parts]
        rw [whole]
        obtain ⟨bounded, ⟨pending', holding', parse⟩ | ⟨dead, parse⟩⟩ := follows
        · rw [parse]
          refine ih _ ?_ (fun i => cut (i + 1)) holding' (stream.drop count) rfl
          rw [List.length_drop]
          omega
        · rw [parse]
          have stops : readAll host survives (fun i => cut (i + 1)) r' (stream.drop count) =
              (r', stream.drop count) := by
            rw [readAll, dif_pos (.inr dead)]
          rw [stops, dead]
          exact ⟨rfl, bounded⟩

/-- Whatever the sizes in which a stream is read, the messages are those of the whole stream, and
the connection ends where it does for the whole stream. At no point of the stream is the frame
buffer filled beyond its size, and swapping a message twice gives it back. -/
theorem pptpCtrlReadCtrl_reassembles (host : Host) (survives : List Message → Bool)
    (cut : Nat → Nat) (stream : Bytes) :
    let run := readAll host survives cut .new stream
    (⟨run.1.messages, run.1.alive, run.2⟩ : Parsed) = parseStream host survives [] stream ∧
      (∀ count, Bounded host (readAll host survives cut .new (stream.take count)).1) ∧
      ∀ type buf, pptpCtrlSwap host type (pptpCtrlSwap host type buf) = buf :=
  ⟨(readAll_parse cut holding_new stream).1,
    fun count => (readAll_parse cut holding_new (stream.take count)).2, pptpCtrlSwap_pptpCtrlSwap⟩

end Reading

end Mpd.PptpStream
