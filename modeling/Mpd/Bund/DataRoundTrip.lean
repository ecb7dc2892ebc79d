import Mpd.Bund.DataHooks

/-! Frames that one daemon compresses or encrypts and another one restores. -/

set_option autoImplicit false

namespace Mpd.Hooks

section Streams

variable {σ τ : Type}

def onHook (written : List Written) (hook : List Char) : List Bytes :=
  (written.filter (·.hook = hook)).map (·.bp)

def framesFor (waiting : List HookFrame) (side : Side) (id : Nat) : List Bytes :=
  (waiting.filter fun frame => frame.side = side ∧ frame.id = id).map (·.bp)

/-- What a transform makes of a sequence of frames, without those it drops. -/
def stream (transform : τ → Bytes → Option Bytes × τ) : τ → List Bytes → List Bytes
  | _, [] => []
  | state, bp :: frames =>
      (transform state bp).1.toList ++ stream transform (transform state bp).2 frames

/-- One side of a bundle works like a transform of its own, which the other side of the
same bundle leaves alone. -/
structure Follows (S : DataSocket σ) (side : Side) (transform : τ → Bytes → Option Bytes × τ)
    (rel : σ → τ → Prop) : Prop where
  result : ∀ s t bp, rel s t → (S.transform side s bp).1 = (transform t bp).1
  next : ∀ s t bp, rel s t → rel (S.transform side s bp).2 (transform t bp).2
  other : ∀ s t bp otherSide, rel s t → otherSide ≠ side → rel (S.transform otherSide s bp).2 t

def Separates (S : DataSocket σ) : Prop := ∀ frame, S.takenFor frame = frame.side

theorem hook_inj {S : DataSocket σ} (distinct : S.letter ≠ 'd') {side other : Side} {id otherId : Nat} :
    S.hook side id = S.hook other otherId ↔ side = other ∧ id = otherId := by
  constructor
  · intro same
    obtain ⟨letters, digits⟩ := List.cons.inj same
    have ids := congrArg (Nat.ofDigitChars 10 · 0) digits
    simp only [Nat.ofDigitChars_ten_toDigits] at ids
    refine ⟨?_, ids⟩
    cases side <;> cases other <;> simp_all [DataSocket.letterOf]
    exact distinct letters.symm
  · rintro ⟨rfl, rfl⟩
    rfl

theorem onHook_append (first second : List Written) (hook : List Char) :
    onHook (first ++ second) hook = onHook first hook ++ onHook second hook := by
  simp [onHook]

theorem onHook_same (bps : List Bytes) (hook : List Char) (name : String) :
    onHook (bps.map fun bp => ⟨hook, name, bp⟩) hook = bps := by
  induction bps with
  | nil => rfl
  | cons bp bps ih => simpa [onHook] using ih

theorem onHook_other (bps : List Bytes) {hook other : List Char} (name : String)
    (differ : hook ≠ other) : onHook (bps.map fun bp => ⟨hook, name, bp⟩) other = [] := by
  simp [onHook, differ]

/-- What comes back on the hook of a live bundle is what its own transform makes of its own
frames, whatever else is read in between. -/
theorem onHook_run {S : DataSocket σ} (distinct : S.letter ≠ 'd') (separates : Separates S)
    {side : Side} {transform : τ → Bytes → Option Bytes × τ} {rel : σ → τ → Prop}
    (follows : Follows S side transform rel) {id : Nat} (w : DataWorld σ) (state : τ)
    {b : DataBundle σ} (held : w.table.bundle id = some b) (live : b.dead = false)
    (related : rel b.state state) (waiting : List HookFrame) :
    onHook (Transition.run (readFrame S) w waiting).written (S.hook side id) =
      onHook w.written (S.hook side id) ++ stream transform state (framesFor waiting side id) := by
  induction waiting generalizing w state b with
  | nil => simp [framesFor, stream]
  | cons frame waiting ih =>
      rw [Transition.run_cons]
      by_cases named : frame.id = id
      · subst named
        have step := readFrame_eq S w frame
        rw [held] at step
        dsimp only at step
        rw [if_neg (by simp [live]), separates frame] at step
        have held_after : (readFrame S w frame).table.bundle frame.id =
            some { b with state := (S.transform frame.side b.state frame.bp).2 } := by
          rw [step, bundle_store held, if_pos rfl]
        by_cases same : frame.side = side
        · subst same
          have after := ih (readFrame S w frame) (transform state frame.bp).2 held_after live
            (follows.next b.state state frame.bp related)
          rw [after, step, onHook_append, onHook_same, follows.result b.state state frame.bp related]
          simp [framesFor, stream]
        · have after := ih (readFrame S w frame) state held_after live
            (follows.other b.state state frame.bp frame.side related same)
          have elsewhere : S.hook frame.side frame.id ≠ S.hook side frame.id := fun hooks =>
            same ((hook_inj distinct).mp hooks).1
          rw [after, step, onHook_append, onHook_other _ _ elsewhere]
          simp [framesFor, same]
      · have unnamed : framesFor (frame :: waiting) side id = framesFor waiting side id := by
          simp [framesFor, named]
        have elsewhere : S.hook frame.side frame.id ≠ S.hook side id := fun hooks =>
          named ((hook_inj distinct).mp hooks).2
        rw [unnamed]
        have step := readFrame_eq S w frame
        cases found : w.table.bundle frame.id with
        | none =>
            rw [found] at step
            rw [step]
            exact ih w state held live related
        | some other =>
            rw [found] at step
            dsimp only at step
            by_cases dead : other.dead = true
            · rw [if_pos dead] at step
              rw [step]
              exact ih w state held live related
            · rw [if_neg dead] at step
              have held_after : (readFrame S w frame).table.bundle id = some b := by
                rw [step, bundle_store found, if_neg (Ne.symm named), held]
              rw [ih (readFrame S w frame) state held_after live related, step, onHook_append,
                onHook_other _ _ elsewhere, List.append_nil]

end Streams

/-- Two daemons, a bundle on either, and the frames that they read. What comes back on the
output hook of the first bundle is what is sent to the input hook of the second one. -/
structure Exchange {σ : Type} (S : DataSocket σ) where
  a : DataTable σ
  b : DataTable σ
  aId : Nat
  bId : Nat
  sender : DataBundle σ
  receiver : DataBundle σ
  senderHeld : a.bundle aId = some sender
  receiverHeld : b.bundle bId = some receiver
  senderLive : sender.dead = false
  receiverLive : receiver.dead = false
  readA : List HookFrame
  readB : List HookFrame
  sizes : ∀ bp ∈ framesFor readA .output aId, 1 ≤ bp.length ∧ bp.length ≤ 2048
  delivered : framesFor readB .input bId = onHook (drain S a readA).written (S.hook .output aId)

section Right

variable {σ : Type} {S : DataSocket σ}

def RightlyTaken (S : DataSocket σ) (table : DataTable σ) (waiting : List HookFrame) : Prop :=
  (drain S table waiting).reached =
    (waiting.filter (isLive table)).map fun frame => (frame.id, frame.side)

/-- No frame reaches a wrong bundle or transform, and the frames of the first bundle are
restored by the second. -/
structure Exchange.Right (x : Exchange S) : Prop where
  takenA : RightlyTaken S x.a x.readA
  takenB : RightlyTaken S x.b x.readB
  restored : onHook (drain S x.b x.readB).written (S.hook .input x.bId) =
    framesFor x.readA .output x.aId

theorem rightlyTaken_iff (table : DataTable σ) (waiting : List HookFrame) :
    RightlyTaken S table waiting ↔
      ∀ frame ∈ waiting, isLive table frame = true → S.takenFor frame = frame.side := by
  rw [RightlyTaken, drain_eq, reached_run, List.nil_append, List.map_inj_left]
  simp only [List.mem_filter, Prod.mk.injEq, true_and, and_imp]

end Right

section Dese

variable {δ : Type} (codec : DeseCodec δ)

def deseBisOutput (des : DeseBisInfo) (plain : Bytes) : Option Bytes × DeseBisInfo :=
  (some (deseBisEncrypt des plain).1, (deseBisEncrypt des plain).2)

structure SendsLike (ecp : EcpData δ) (des : DeseBisInfo) : Prop where
  xmit : ecp.xmit = some .deseBis
  ks : ecp.deseBis.ks = des.ks
  ivec : ecp.deseBis.xmit_ivec = des.xmit_ivec
  seq : ecp.deseBis.xmit_seq = des.xmit_seq

structure ReceivesLike (ecp : EcpData δ) (des : DeseBisInfo) : Prop where
  recv : ecp.recv = some .deseBis
  ks : ecp.deseBis.ks = des.ks
  ivec : ecp.deseBis.recv_ivec = des.recv_ivec
  seq : ecp.deseBis.recv_seq = des.recv_seq

/-- Decryption leaves the state for encryption alone. -/
theorem deseBisDecrypt_xmit (des : DeseBisInfo) (cypher : Bytes) :
    (deseBisDecrypt des cypher).2.ks = des.ks ∧
      (deseBisDecrypt des cypher).2.xmit_ivec = des.xmit_ivec ∧
      (deseBisDecrypt des cypher).2.xmit_seq = des.xmit_seq := by
  unfold deseBisDecrypt
  split
  · dsimp only
    split_ifs <;> exact ⟨rfl, rfl, rfl⟩
  · exact ⟨rfl, rfl, rfl⟩

/-- Decryption looks at the key, the vector and the number of the receiver only. -/
theorem deseBisDecrypt_congr {des other : DeseBisInfo} (ks : des.ks = other.ks)
    (ivec : des.recv_ivec = other.recv_ivec) (seq : des.recv_seq = other.recv_seq)
    (cypher : Bytes) :
    (deseBisDecrypt des cypher).1 = (deseBisDecrypt other cypher).1 ∧
      (deseBisDecrypt des cypher).2.recv_ivec = (deseBisDecrypt other cypher).2.recv_ivec ∧
      (deseBisDecrypt des cypher).2.recv_seq = (deseBisDecrypt other cypher).2.recv_seq := by
  unfold deseBisDecrypt
  split
  · dsimp only
    rw [ks, ivec, seq]
    split_ifs <;> exact ⟨rfl, rfl, rfl⟩
  · exact ⟨rfl, ivec, seq⟩

theorem ecp_separates : Separates (ecpSocket codec) := by
  intro frame
  cases side : frame.side <;>
    simp [DataSocket.takenFor, DataSocket.hook, DataSocket.letterOf, ecpSocket, side]

theorem ecp_output_follows : Follows (ecpSocket codec) .output deseBisOutput SendsLike where
  result ecp des plain := by
    rintro ⟨xmit, ks, ivec, seq⟩
    simp [ecpSocket, ecpDataOutput, xmit, deseBisOutput, deseBisEncrypt, ks, ivec, seq]
  next ecp des plain := by
    rintro ⟨xmit, ks, ivec, seq⟩
    constructor <;> simp [ecpSocket, ecpDataOutput, xmit, deseBisOutput, deseBisEncrypt, ks, ivec, seq]
  other ecp des cypher side := by
    rintro ⟨xmit, ks, ivec, seq⟩ differ
    cases side with
    | output => exact absurd rfl differ
    | input =>
        obtain ⟨ks_same, ivec_same, seq_same⟩ := deseBisDecrypt_xmit ecp.deseBis cypher
        change SendsLike (ecpDataInput codec ecp cypher).2 des
        unfold ecpDataInput
        split
        · exact ⟨xmit, ks_same.trans ks, ivec_same.trans ivec, seq_same.trans seq⟩
        · exact ⟨xmit, ks, ivec, seq⟩
        · exact ⟨xmit, ks, ivec, seq⟩

theorem ecp_input_follows : Follows (ecpSocket codec) .input deseBisDecrypt ReceivesLike where
  result ecp des cypher := by
    rintro ⟨recv, ks, ivec, seq⟩
    simpa [ecpSocket, ecpDataInput, recv] using (deseBisDecrypt_congr ks ivec seq cypher).1
  next ecp des cypher := by
    rintro ⟨recv, ks, ivec, seq⟩
    obtain ⟨-, ivec_next, seq_next⟩ := deseBisDecrypt_congr ks ivec seq cypher
    have same_ks : (deseBisDecrypt ecp.deseBis cypher).2.ks = (deseBisDecrypt des cypher).2.ks := by
      rw [(deseBisDecrypt_xmit ecp.deseBis cypher).1, (deseBisDecrypt_xmit des cypher).1, ks]
    constructor <;> simp [ecpSocket, ecpDataInput, recv, same_ks, ivec_next, seq_next]
  other ecp des plain side := by
    rintro ⟨recv, ks, ivec, seq⟩ differ
    cases side with
    | input => exact absurd rfl differ
    | output =>
        change ReceivesLike (ecpDataOutput codec ecp plain).2 des
        unfold ecpDataOutput
        split
        · exact ⟨recv, ks, ivec, seq⟩
        · exact ⟨recv, ks, ivec, seq⟩
        · exact ⟨recv, ks, ivec, seq⟩

/-- What was encrypted is decrypted again, frame by frame. -/
theorem stream_deseBis {frames : List Bytes} (nonempty : ∀ bp ∈ frames, bp ≠ [])
    (sender receiver : DeseBisInfo) (ks : receiver.ks = sender.ks)
    (seq : receiver.recv_seq = sender.xmit_seq) (ivec : receiver.recv_ivec = sender.xmit_ivec) :
    stream deseBisDecrypt receiver (stream deseBisOutput sender frames) = frames := by
  induction frames generalizing sender receiver with
  | nil => rfl
  | cons bp frames ih =>
      obtain ⟨recv_stats, restored⟩ :=
        deseBisDecrypt_next ks (nonempty bp List.mem_cons_self) seq ivec
      have later : ∀ other ∈ frames, other ≠ [] := fun other member =>
        nonempty other (List.mem_cons_of_mem bp member)
      have sent : stream deseBisOutput sender (bp :: frames) =
          (deseBisEncrypt sender bp).1 :: stream deseBisOutput (deseBisEncrypt sender bp).2 frames :=
        rfl
      rw [sent, stream, restored, ih later (deseBisEncrypt sender bp).2]
      · rfl
      · exact ks
      · rfl
      · rfl

/-- Two bundles that negotiated DESE-bis from the one to the other. -/
structure EcpExchange extends Exchange (ecpSocket codec) where
  xmit : sender.state.xmit = some .deseBis
  recv : receiver.state.recv = some .deseBis
  ks : receiver.state.deseBis.ks = sender.state.deseBis.ks
  seq : receiver.state.deseBis.recv_seq = sender.state.deseBis.xmit_seq
  ivec : receiver.state.deseBis.recv_ivec = sender.state.deseBis.xmit_ivec

theorem EcpExchange.right (x : EcpExchange codec) : x.toExchange.Right where
  takenA := (rightlyTaken_iff _ _).mpr fun frame _ _ => ecp_separates codec frame
  takenB := (rightlyTaken_iff _ _).mpr fun frame _ _ => ecp_separates codec frame
  restored := by
    have distinct : (ecpSocket codec).letter ≠ 'd' := nofun
    have sent := onHook_run distinct (ecp_separates codec) (ecp_output_follows codec)
      ⟨x.a, [], []⟩ x.sender.state.deseBis x.senderHeld x.senderLive ⟨x.xmit, rfl, rfl, rfl⟩ x.readA
    have received := onHook_run distinct (ecp_separates codec) (ecp_input_follows codec)
      ⟨x.b, [], []⟩ x.receiver.state.deseBis x.receiverHeld x.receiverLive ⟨x.recv, rfl, rfl, rfl⟩
      x.readB
    have nonempty : ∀ bp ∈ framesFor x.readA .output x.aId, bp ≠ [] := fun bp member =>
      List.ne_nil_of_length_pos (x.sizes bp member).1
    rw [drain_eq, received, x.delivered, drain_eq, sent]
    simpa [onHook] using stream_deseBis nonempty _ _ x.ks x.seq x.ivec

end Dese

section Pred1

/-- Two bundles that negotiated Predictor-1 from the one to the other. -/
structure CcpExchange extends Exchange ccpSocket where
  xmit : sender.state.xmit = some .pred1
  recv : receiver.state.recv = some .pred1
  inStep : receiver.state.pred1.input = sender.state.pred1.output

/-- The character after the letter is a digit, and never a letter itself. -/
theorem ccp_takenFor (frame : HookFrame) : ccpSocket.takenFor frame = .input := by
  have digits : ∀ c ∈ Nat.toDigits 10 frame.id, c ≠ 'c' := by
    rintro c member rfl
    exact absurd (Nat.isDigit_of_mem_toDigits (by decide) (by decide) member) (by decide)
  rw [DataSocket.takenFor, if_neg]
  cases shape : Nat.toDigits 10 frame.id with
  | nil => simp [ccpSocket, DataSocket.hook, shape]
  | cons first others =>
      rw [shape] at digits
      simpa [ccpSocket, DataSocket.hook, shape] using digits first List.mem_cons_self

/-- No frame for a live bundle is read from its compression hook. -/
def NeverCompresses (x : CcpExchange) : Prop :=
  (∀ frame ∈ x.readA, isLive x.a frame = true → frame.side = .input) ∧
    ∀ frame ∈ x.readB, isLive x.b frame = true → frame.side = .input

theorem ccp_rightlyTaken_iff (table : DataTable CcpData) (waiting : List HookFrame) :
    RightlyTaken ccpSocket table waiting ↔
      ∀ frame ∈ waiting, isLive table frame = true → frame.side = .input := by
  rw [rightlyTaken_iff]
  simp only [ccp_takenFor, eq_comm]

theorem isLive_of_held {σ : Type} {table : DataTable σ} {frame : HookFrame} {b : DataBundle σ}
    (held : table.bundle frame.id = some b) (live : b.dead = false) :
    isLive table frame = true := by
  rw [isLive, held]
  simp [live]

/-- A frame written on a hook was read from it. -/
theorem onHook_unread {σ : Type} {S : DataSocket σ} (distinct : S.letter ≠ 'd') {side : Side}
    {id : Nat} (w : DataWorld σ) {waiting : List HookFrame}
    (unread : framesFor waiting side id = []) :
    onHook (Transition.run (readFrame S) w waiting).written (S.hook side id) =
      onHook w.written (S.hook side id) := by
  induction waiting generalizing w with
  | nil => rfl
  | cons frame waiting ih =>
      have differs : ¬ (frame.side = side ∧ frame.id = id) := by
        intro same
        simp [framesFor, same] at unread
      have rest : framesFor waiting side id = [] := by
        simpa [framesFor, differs] using unread
      have elsewhere : S.hook frame.side frame.id ≠ S.hook side id := fun hooks =>
        differs ((hook_inj distinct).mp hooks)
      rw [Transition.run_cons, ih _ rest, readFrame_eq]
      split
      · rfl
      · split
        · rfl
        · rw [onHook_append, onHook_other _ _ elsewhere, List.append_nil]

theorem CcpExchange.right_iff (x : CcpExchange) : x.toExchange.Right ↔ NeverCompresses x := by
  constructor
  · rintro ⟨takenA, takenB, -⟩
    exact ⟨(ccp_rightlyTaken_iff _ _).mp takenA, (ccp_rightlyTaken_iff _ _).mp takenB⟩
  · rintro ⟨inputsA, inputsB⟩
    have unsent : framesFor x.readA .output x.aId = [] := by
      simp only [framesFor, List.map_eq_nil_iff, List.filter_eq_nil_iff]
      rintro frame member same
      obtain ⟨output, named⟩ : frame.side = .output ∧ frame.id = x.aId := by simpa using same
      have held : x.a.bundle frame.id = some x.sender := named ▸ x.senderHeld
      have live := isLive_of_held held x.senderLive
      exact absurd (output.symm.trans (inputsA frame member live)) nofun
    have unread : framesFor x.readB .input x.bId = [] := by
      rw [x.delivered, drain_eq, onHook_unread (by decide) _ unsent]
      rfl
    refine ⟨(ccp_rightlyTaken_iff _ _).mpr inputsA, (ccp_rightlyTaken_iff _ _).mpr inputsB, ?_⟩
    rw [unsent, drain_eq, onHook_unread (by decide) _ unread]
    rfl

end Pred1

/-- Encrypted frames always come back as they were, from the right bundles. Compressed
ones do if there are none: each is decompressed where it is to be compressed. -/
theorem dataHooks_right_iff {δ : Type} {codec : DeseCodec δ} (ecp : EcpExchange codec)
    (ccp : CcpExchange) :
    (ccp.toExchange.Right ∧ ecp.toExchange.Right) ↔ NeverCompresses ccp := by
  rw [ccp.right_iff]
  exact and_iff_left ecp.right

/-- A bundle that compresses what it sends and expects nothing compressed. -/
def compressingTable : DataTable CcpData where
  gBundles := [some ⟨"A", false, some .pred1, none, .init⟩]
  bounded := by decide

def decompressingTable : DataTable CcpData where
  gBundles := [some ⟨"B", false, none, some .pred1, .init⟩]
  bounded := by decide

def lostFrame : CcpExchange where
  a := compressingTable
  b := decompressingTable
  aId := 0
  bId := 0
  sender := ⟨"A", false, some .pred1, none, .init⟩
  receiver := ⟨"B", false, none, some .pred1, .init⟩
  senderHeld := rfl
  receiverHeld := rfl
  senderLive := rfl
  receiverLive := rfl
  readA := [⟨.output, 0, [0x21], by decide⟩]
  readB := []
  sizes := by decide
  delivered := by rfl
  xmit := rfl
  recv := rfl
  inStep := rfl

theorem lostFrame_wrong : ¬ lostFrame.toExchange.Right := by
  rintro ⟨-, -, restored⟩
  exact absurd restored (by decide)

end Mpd.Hooks
