import Mpd.Bytes
import Mpd.Transition

/-! Predictor-1 compression as in `ccp_pred1.c`, with the frame check of `util.c`. -/

set_option autoImplicit false

namespace Mpd

def crc16Table : List UInt16 :=
  [0x0000, 0x1189, 0x2312, 0x329b, 0x4624, 0x57ad, 0x6536, 0x74bf, 0x8c48, 0x9dc1,
    0xaf5a, 0xbed3, 0xca6c, 0xdbe5, 0xe97e, 0xf8f7, 0x1081, 0x0108, 0x3393, 0x221a,
    0x56a5, 0x472c, 0x75b7, 0x643e, 0x9cc9, 0x8d40, 0xbfdb, 0xae52, 0xdaed, 0xcb64,
    0xf9ff, 0xe876, 0x2102, 0x308b, 0x0210, 0x1399, 0x6726, 0x76af, 0x4434, 0x55bd,
    0xad4a, 0xbcc3, 0x8e58, 0x9fd1, 0xeb6e, 0xfae7, 0xc87c, 0xd9f5, 0x3183, 0x200a,
    0x1291, 0x0318, 0x77a7, 0x662e, 0x54b5, 0x453c, 0xbdcb, 0xac42, 0x9ed9, 0x8f50,
    0xfbef, 0xea66, 0xd8fd, 0xc974, 0x4204, 0x538d, 0x6116, 0x709f, 0x0420, 0x15a9,
    0x2732, 0x36bb, 0xce4c, 0xdfc5, 0xed5e, 0xfcd7, 0x8868, 0x99e1, 0xab7a, 0xbaf3,
    0x5285, 0x430c, 0x7197, 0x601e, 0x14a1, 0x0528, 0x37b3, 0x263a, 0xdecd, 0xcf44,
    0xfddf, 0xec56, 0x98e9, 0x8960, 0xbbfb, 0xaa72, 0x6306, 0x728f, 0x4014, 0x519d,
    0x2522, 0x34ab, 0x0630, 0x17b9, 0xef4e, 0xfec7, 0xcc5c, 0xddd5, 0xa96a, 0xb8e3,
    0x8a78, 0x9bf1, 0x7387, 0x620e, 0x5095, 0x411c, 0x35a3, 0x242a, 0x16b1, 0x0738,
    0xffcf, 0xee46, 0xdcdd, 0xcd54, 0xb9eb, 0xa862, 0x9af9, 0x8b70, 0x8408, 0x9581,
    0xa71a, 0xb693, 0xc22c, 0xd3a5, 0xe13e, 0xf0b7, 0x0840, 0x19c9, 0x2b52, 0x3adb,
    0x4e64, 0x5fed, 0x6d76, 0x7cff, 0x9489, 0x8500, 0xb79b, 0xa612, 0xd2ad, 0xc324,
    0xf1bf, 0xe036, 0x18c1, 0x0948, 0x3bd3, 0x2a5a, 0x5ee5, 0x4f6c, 0x7df7, 0x6c7e,
    0xa50a, 0xb483, 0x8618, 0x9791, 0xe32e, 0xf2a7, 0xc03c, 0xd1b5, 0x2942, 0x38cb,
    0x0a50, 0x1bd9, 0x6f66, 0x7eef, 0x4c74, 0x5dfd, 0xb58b, 0xa402, 0x9699, 0x8710,
    0xf3af, 0xe226, 0xd0bd, 0xc134, 0x39c3, 0x284a, 0x1ad1, 0x0b58, 0x7fe7, 0x6e6e,
    0x5cf5, 0x4d7c, 0xc60c, 0xd785, 0xe51e, 0xf497, 0x8028, 0x91a1, 0xa33a, 0xb2b3,
    0x4a44, 0x5bcd, 0x6956, 0x78df, 0x0c60, 0x1de9, 0x2f72, 0x3efb, 0xd68d, 0xc704,
    0xf59f, 0xe416, 0x90a9, 0x8120, 0xb3bb, 0xa232, 0x5ac5, 0x4b4c, 0x79d7, 0x685e,
    0x1ce1, 0x0d68, 0x3ff3, 0x2e7a, 0xe70e, 0xf687, 0xc41c, 0xd595, 0xa12a, 0xb0a3,
    0x8238, 0x93b1, 0x6b46, 0x7acf, 0x4854, 0x59dd, 0x2d62, 0x3ceb, 0x0e70, 0x1ff9,
    0xf78f, 0xe606, 0xd49d, 0xc514, 0xb1ab, 0xa022, 0x92b9, 0x8330, 0x7bc7, 0x6a4e,
    0x58d5, 0x495c, 0x3de3, 0x2c6a, 0x1ef1, 0x0f78]

def crc16 (crc : UInt16) (cp : Bytes) : UInt16 :=
  cp.foldl (fun crc byte =>
    (crc >>> 8) ^^^ crc16Table.getD ((crc ^^^ byte.toUInt16) &&& 0xff).toNat 0) crc

def pppInitFcs : UInt16 := 0xffff
def pppGoodFcs : UInt16 := 0xf0b8

structure Guess where
  hash : UInt16
  table : UInt16 → UInt8

namespace Guess

/-- What `Pred1Init` sets up. `Malloc` clears the table. -/
def init : Guess := ⟨0, fun _ => 0⟩

/-- The guess at the next byte. -/
def next (g : Guess) : UInt8 := g.table g.hash

def hashByte (g : Guess) (x : UInt8) : Guess := { g with hash := (g.hash <<< 4) ^^^ x.toUInt16 }

/-- The byte goes into the table in place of a wrong guess. -/
def store (g : Guess) (x : UInt8) : Guess :=
  { g with table := fun hash => if hash = g.hash then x else g.table hash }

end Guess

def bitmask (left : Nat) : UInt8 := 1 <<< UInt8.ofNat (7 - left)

/-- What the inner loop of `Compress` makes of one group. -/
structure Pred1Group where
  flags : UInt8
  literals : Bytes
  guess : Guess
  source : Bytes

/-- The inner loop of `Compress`, with the number of flag bits that are left. -/
def compressGroup : Nat → Guess → Bytes → Pred1Group
  | left + 1, g, x :: source =>
      if g.next = x then
        let group := compressGroup left (g.hashByte x) source
        { group with flags := group.flags ||| bitmask left }
      else
        let group := compressGroup left ((g.store x).hashByte x) source
        { group with literals := x :: group.literals }
  | _, g, source => ⟨0, [], g, source⟩

theorem source_compressGroup (left : Nat) (g : Guess) (source : Bytes) :
    (compressGroup left g source).source = source.drop left := by
  induction left generalizing g source with
  | zero => simp [compressGroup]
  | succ left ih =>
      cases source with
      | nil => simp [compressGroup]
      | cons x source =>
          unfold compressGroup
          split_ifs
          · exact ih (g.hashByte x) source
          · exact ih ((g.store x).hashByte x) source

def compress (g : Guess) (source : Bytes) : Bytes × Guess :=
  match source with
  | [] => ([], g)
  | x :: source =>
      let group := compressGroup 8 g (x :: source)
      let rest := compress group.guess group.source
      (group.flags :: group.literals ++ rest.1, rest.2)
  termination_by source.length
  decreasing_by
    rw [source_compressGroup, List.length_drop, List.length_cons]
    omega

/-- What the inner loop of `Decompress` makes of one group. -/
structure Pred1Plain where
  dest : Bytes
  guess : Guess
  source : Bytes
  dlen : Nat

namespace Pred1Plain

def cons (x : UInt8) (plain : Pred1Plain) : Pred1Plain := { plain with dest := x :: plain.dest }

end Pred1Plain

/-- The inner loop of `Decompress`. It fails when it runs out of space. -/
def decompressGroup (flags : UInt8) : Nat → Guess → Bytes → Nat → Option Pred1Plain
  | 0, g, source, dlen => some ⟨[], g, source, dlen⟩
  | _ + 1, _, _, 0 => none
  | left + 1, g, source, dlen + 1 =>
      if flags &&& bitmask left ≠ 0 then
        (decompressGroup flags left (g.hashByte g.next) source dlen).map (·.cons g.next)
      else
        match source with
        | [] => some ⟨[], g, [], dlen + 1⟩
        | x :: source =>
            (decompressGroup flags left ((g.store x).hashByte x) source dlen).map (·.cons x)

theorem length_source_decompressGroup {flags : UInt8} {left : Nat} {g : Guess} {source : Bytes}
    {dlen : Nat} {plain : Pred1Plain}
    (decoded : decompressGroup flags left g source dlen = some plain) :
    plain.source.length ≤ source.length := by
  induction left generalizing g source dlen plain with
  | zero =>
      simp only [decompressGroup, Option.some.injEq] at decoded
      exact decoded ▸ Nat.le_refl _
  | succ left ih =>
      cases dlen with
      | zero => exact nomatch decoded
      | succ dlen =>
          unfold decompressGroup at decoded
          split_ifs at decoded
          · obtain ⟨inner, decodes, rfl⟩ := Option.map_eq_some_iff.mp decoded
            exact @ih _ _ _ inner decodes
          · cases source with
            | nil =>
                simp only [Option.some.injEq] at decoded
                exact decoded ▸ Nat.le_refl _
            | cons x source =>
                obtain ⟨inner, decodes, rfl⟩ := Option.map_eq_some_iff.mp decoded
                exact Nat.le_succ_of_le (@ih _ _ _ inner decodes)

def decompress (g : Guess) (source : Bytes) (dlen : Nat) : Option (Bytes × Guess) :=
  match source with
  | [] => some ([], g)
  | flags :: source =>
      match _ : decompressGroup flags 8 g source dlen with
      | none => none
      | some plain =>
          (decompress plain.guess plain.source plain.dlen).map fun rest =>
            (plain.dest ++ rest.1, rest.2)
  termination_by source.length
  decreasing_by exact Nat.lt_succ_of_le (length_source_decompressGroup ‹_›)

/-- The body of the loop of `SyncTable`. -/
def Guess.sync (g : Guess) (x : UInt8) : Guess :=
  (if g.next ≠ x then g.store x else g).hashByte x

def syncTable (g : Guess) (source : Bytes) : Guess := source.foldl Guess.sync g

structure Pred1Stats where
  FramesPlain : UInt64
  FramesComp : UInt64
  FramesUncomp : UInt64
  InOctets : UInt64
  OutOctets : UInt64
  Errors : UInt64
  deriving DecidableEq, Repr

def Pred1Stats.zero : Pred1Stats := ⟨0, 0, 0, 0, 0, 0⟩

/-- `struct pred1info`. The two hashes are in the guesses. -/
structure Pred1Info where
  input : Guess
  output : Guess
  recv_stats : Pred1Stats
  xmit_stats : Pred1Stats

/-- A `struct pred1info` after `Pred1Init` for both directions. -/
def Pred1Info.init : Pred1Info := ⟨.init, .init, .zero, .zero⟩

def pred1DecompBufSize : Nat := 4096

/-- The two bytes of a frame check in the order in which they are sent. -/
def fcsBytes (fcs : UInt16) : Bytes := [(fcs &&& 0xFF).toUInt8, (fcs >>> 8).toUInt8]

/-- The length field of a packet that is not compressed. -/
def pred1Header (orglen : Nat) : UInt8 × UInt8 :=
  (UInt8.ofNat (orglen >>> 8) &&& 0x7F, UInt8.ofNat orglen)

def pred1Compress (p : Pred1Info) (plain : Bytes) : Bytes × Pred1Info :=
  let orglen := plain.length
  let header := pred1Header orglen
  let fcs := ~~~crc16 (crc16 pppInitFcs [header.1, header.2]) plain
  let compressed := compress p.output plain
  let stats := { p.xmit_stats with
    InOctets := p.xmit_stats.InOctets + UInt64.ofNat orglen
    FramesPlain := p.xmit_stats.FramesPlain + 1 }
  let packed :=
    if compressed.1.length < orglen then
      ((header.1 ||| 0x80) :: header.2 :: compressed.1 ++ fcsBytes fcs,
        { stats with FramesComp := stats.FramesComp + 1 })
    else
      (header.1 :: header.2 :: plain ++ fcsBytes fcs,
        { stats with FramesUncomp := stats.FramesUncomp + 1 })
  (packed.1, { p with
    output := compressed.2
    xmit_stats := { packed.2 with
      OutOctets := packed.2.OutOctets + UInt64.ofNat packed.1.length } })

inductive Pred1Result where
  | frame (mbuncomp : Bytes)
  | resetReq
  | overread
  deriving DecidableEq, Repr

/-- The error path of `Pred1Decompress`: `CcpSendResetReq` initialises the decompressor. -/
def pred1Reset (p : Pred1Info) : Pred1Result × Pred1Info :=
  (.resetReq, { p with
    input := .init, recv_stats := { p.recv_stats with Errors := p.recv_stats.Errors + 1 } })

/-- `Pred1Decompress` from the check of the CRC on. -/
def pred1CheckFcs (p : Pred1Info) (len : UInt16) (uncomp cp : Bytes) : Pred1Result × Pred1Info :=
  match cp with
  | low :: high :: _ =>
      let fcs := crc16 (crc16 (crc16 pppInitFcs (putBe16 len)) uncomp) [low, high]
      if fcs ≠ pppGoodFcs then pred1Reset p
      else
        (.frame uncomp, { p with
          recv_stats := { p.recv_stats with
            FramesPlain := p.recv_stats.FramesPlain + 1
            OutOctets := p.recv_stats.OutOctets + len.toUInt64 } })
  | _ => (.overread, p)

def pred1Decompress (p : Pred1Info) (mbcomp : Bytes) : Pred1Result × Pred1Info :=
  let orglen := mbcomp.length
  let stats := { p.recv_stats with
    InOctets := p.recv_stats.InOctets + UInt64.ofNat orglen }
  match mbcomp with
  | high :: low :: cp =>
      let cf := be16 high low &&& 0x8000
      let len := be16 high low &&& 0x7fff
      if cf ≠ 0 then
        let p := { p with recv_stats := { stats with FramesComp := stats.FramesComp + 1 } }
        if orglen < 4 then (.overread, p)
        else
          match decompress p.input (cp.take (orglen - 4)) pred1DecompBufSize with
          | none => pred1Reset p
          | some (uncomp, input) =>
              let p := { p with input }
              if len ≠ UInt16.ofNat uncomp.length then pred1Reset p
              else pred1CheckFcs p len uncomp (cp.drop (orglen - 4))
      else
        let p := { p with recv_stats := { stats with FramesUncomp := stats.FramesUncomp + 1 } }
        if cp.length < len.toNat then (.overread, p)
        else
          let uncomp := cp.take len.toNat
          pred1CheckFcs { p with input := syncTable p.input uncomp } len uncomp
            (cp.drop len.toNat)
  | _ => (.overread, p)

end Mpd
