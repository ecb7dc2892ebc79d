import Mpd.Auth.Reflection

/-! Where in the payload of a packet the handlers of the authentication look. The
payload lies in a memory that goes on behind it, and every access is recorded. -/

set_option autoImplicit false

namespace Mpd.PayloadReads

inductive Access where
  | byte (place : Nat)
  | null
  deriving DecidableEq, Repr

/-- What a handler makes of a packet: it refuses it for what is in the payload, or it
takes the fields that it needs, or it needs none. -/
inductive Verdict where
  | refused
  | taken
  | unneeded
  deriving DecidableEq, Repr

structure Heard where
  reads : List Access
  verdict : Verdict
  deriving DecidableEq, Repr

namespace Heard

def nothing : Heard := ⟨[], .unneeded⟩

def refuse (reads : List Access) : Heard := ⟨reads, .refused⟩

/-- With what was read before. -/
def after (earlier : List Access) (heard : Heard) : Heard := ⟨earlier ++ heard.reads, heard.verdict⟩

end Heard

/-- The pointer `pkt`: whether there is a payload, and what is in the memory from there on. -/
structure Payload where
  given : Bool
  mem : Nat → UInt8

def Payload.look (pkt : Payload) (place : Nat) : Access := if pkt.given then .byte place else .null

def Payload.copy (pkt : Payload) (start count : Nat) : List Access :=
  (List.range' start count).map pkt.look

/-- `strncpy`, or a `%.*s` that is printed: it ends with the first zero. -/
def Payload.text (pkt : Payload) : (start count : Nat) → List Access
  | _, 0 => []
  | start, count + 1 =>
      pkt.look start :: if pkt.mem start = 0 then [] else text pkt (start + 1) count

def Payload.showMesg (pkt : Payload) (start len : Nat) : List Access := pkt.copy start (min len 255)

/-- `case PAP_REQUEST` of `PapInput`, where it is expected. -/
def papRequestReads (pkt : Payload) (len : Nat) : Heard :=
  if len < 1 then .refuse []
  else
    let name_len := (pkt.mem 0).toNat
    if 1 + name_len ≥ len then .refuse [pkt.look 0]
    else
      let pass_len := (pkt.mem (1 + name_len)).toNat
      let lengths := [pkt.look 0, pkt.look (1 + name_len)]
      if name_len + 1 + pass_len + 1 > len then .refuse lengths
      else ⟨lengths ++ pkt.copy 1 name_len ++ pkt.copy (1 + name_len + 1) pass_len, .taken⟩

/-- The message in a `PAP_ACK` or a `PAP_NAK`. -/
def papMessageReads (pkt : Payload) (len : Nat) : List Access :=
  if len > 0 then
    let msg_len := (pkt.mem 0).toNat
    let msg_len := if msg_len < len - 1 then len - 1 else msg_len
    pkt.look 0 :: pkt.showMesg 1 msg_len
  else []

def papInputReads (l : Link) (code : UInt8) (pkt : Payload) (len : Nat) : Heard :=
  if code = papRequest then
    if l.auth.peer_to_self ≠ protoPap then .nothing else papRequestReads pkt len
  else if code = papAck ∨ code = papNak then
    if l.auth.self_to_peer ≠ protoPap then .nothing else ⟨papMessageReads pkt len, .unneeded⟩
  else .nothing

/-- `ChapParsePkt`, for the payload from `&pkt[start]` on. -/
def chapParsePktReads (pkt : Payload) (start len : Nat) : Heard :=
  let val_len := (pkt.mem start).toNat
  if ¬ pkt.given ∨ len < 1 then .refuse []
  else if val_len < 1 ∨ val_len > chapMaxVal ∨ len < val_len + 1 ∨
      len - val_len - 1 > chapMaxName then
    .refuse [pkt.look start]
  else
    ⟨pkt.look start :: pkt.copy (start + 1 + val_len) (len - val_len - 1) ++
      pkt.copy (start + 1) val_len, .taken⟩

def chapInputReads (l : Link) (code : UInt8) (pkt : Payload) (start len : Nat) : Heard :=
  if code = chapChallenge ∨ code = chapResponse then chapParsePktReads pkt start len
  else if code = chapSuccess ∨ code = chapFailure then
    if l.auth.self_to_peer ≠ protoChap ∨ l.lcp.phase ≠ .authenticate then .nothing
    else ⟨pkt.showMesg start len, .unneeded⟩
  else .nothing

/-- The length that goes to `ChapInput`, a `u_short`. -/
def eapDataLen (len : Nat) : Nat := (len + 65535) % 65536

/-- `data` as a string of `data_len` bytes, one less than `len`. Where `data_len` is
negative there is no data, and no limit either. -/
def eapTextReads (pkt : Payload) (len most : Nat) : List Access :=
  if len = 0 then [.null] else pkt.text 1 (min (len - 1) most)

def eapRadiusProxyReads (code : UInt8) (pkt : Payload) (len : Nat) : Heard :=
  let type := if pkt.given then pkt.mem 0 else 0
  let first := if pkt.given then [pkt.look 0] else []
  let ident :=
    if code = eapResponse ∧ type = eapTypeIdent then eapTextReads pkt len (authMaxAuthname - 1)
    else []
  ⟨first ++ ident ++ pkt.copy 0 len, .unneeded⟩

def eapRequestReads (l : Link) (pkt : Payload) (type : UInt8) (len : Nat) : Heard :=
  if type = eapTypeIdent ∨ type = eapTypeNak ∨ type = eapTypeNotif then .nothing
  else if eapTypeSupported type ∧ type ∈ l.auth.eap.peer_types then
    chapParsePktReads pkt 1 (eapDataLen len)
  else .refuse []

/-- `case EAP_RESPONSE` of `EapInput`, for a type. `logs` tells whether the log has room for
the authentication. -/
def eapResponseReads (logs : Bool) (pkt : Payload) (type : UInt8) (len : Nat) : Heard :=
  if type = eapTypeIdent ∨ type = eapTypeNotif then
    ⟨if logs then eapTextReads pkt len (len - 1) else [], .unneeded⟩
  else if type = eapTypeNak then
    if len < 2 then ⟨[.null], .unneeded⟩ else ⟨[pkt.look 1], .taken⟩
  else if type = eapTypeMd5Chal then chapParsePktReads pkt 1 (eapDataLen len)
  else .refuse []

def eapInputReads (logs : Bool) (l : Link) (code : UInt8) (pkt : Payload) (len : Nat) : Heard :=
  let type := if pkt.given then pkt.mem 0 else 0
  let first := if pkt.given then [pkt.look 0] else []
  let rest :=
    if l.auth.eap.options.enabled eapConfRadius then eapRadiusProxyReads code pkt len
    else if code = eapRequest then eapRequestReads l pkt type len
    else if code = eapResponse then eapResponseReads logs pkt type len
    else .nothing
  rest.after first

/-- The protocols that `AuthInput` is called for. -/
inductive AuthProto where
  | pap | chap | eap
  deriving DecidableEq, Repr

/-- The call of the handler in `AuthInput`, with the line that it logs before. -/
def authHandlerReads (logs : Bool) (l : Link) (proto : AuthProto) (code : UInt8) (pkt : Payload)
    (len : Nat) : Heard :=
  match proto with
  | .pap => papInputReads l code pkt len
  | .chap => chapInputReads l code pkt 0 len
  | .eap =>
      (eapInputReads logs l code pkt len).after
        (if pkt.given && logs then [pkt.look 0] else [])

/-- A packet as it comes in, which the buffers for frames keep below the range of a
`u_short`. -/
structure Packet where
  bytes : Bytes
  fits : bytes.length < 65536

/-- The payload behind the header, in a memory that goes on with `junk`. -/
def payload (pkt : Bytes) (junk : Nat → UInt8) : Payload :=
  ⟨pkt ≠ [], fun place => pkt.getD place (junk place)⟩

/-- `AuthInput`. A packet that is dropped is not looked at behind its header. -/
def authInputReads (logs : Bool) (l : Link) (proto : AuthProto) (junk : Nat → UInt8)
    (packet : Packet) : Heard :=
  if l.lcp.phase ≠ .authenticate ∧ l.lcp.phase ≠ .network then .nothing
  else
    match authHeader packet.bytes with
    | none => .refuse []
    | some (code, _, pkt, len) => authHandlerReads logs l proto code (payload pkt junk) len

/-- The length that the header of a packet declares. -/
def declared (packet : Bytes) : Nat := (be16 (packet.getD 2 0) (packet.getD 3 0)).toNat

def Inside (packet : Packet) : Access → Prop
  | .byte place => place + 4 < packet.bytes.length ∧ place + 4 < declared packet.bytes
  | .null => False

def TooShort (l : Link) (proto : AuthProto) (code : UInt8) (pkt : Bytes) : Prop :=
  match proto with
  | .pap => code = papRequest ∧ l.auth.peer_to_self = protoPap ∧ papParse pkt = none
  | .chap =>
      (code = chapChallenge ∨ code = chapResponse) ∧ chapParsePkt pkt pkt.length = none
  | .eap =>
      l.auth.eap.options.enabled eapConfRadius = false ∧
        ((code = eapRequest ∨ code = eapResponse) ∧ pkt = [] ∨
          code = eapResponse ∧ pkt = [eapTypeNak] ∨
          (code = eapRequest ∧ eapTypeMd5Chal ∈ l.auth.eap.peer_types ∨ code = eapResponse) ∧
            ∃ data, pkt = eapTypeMd5Chal :: data ∧ chapParsePkt data data.length = none)

/-- Only bytes of the packet are read, and a packet that is too short is refused. -/
def Careful (logs : Bool) (l : Link) (proto : AuthProto) (junk : Nat → UInt8)
    (packet : Packet) : Prop :=
  (∀ access ∈ (authInputReads logs l proto junk packet).reads, Inside packet access) ∧
    ∀ code id pkt len, (l.lcp.phase = .authenticate ∨ l.lcp.phase = .network) →
      authHeader packet.bytes = some (code, id, pkt, len) →
      TooShort l proto code (pkt.take len) →
        (authInputReads logs l proto junk packet).verdict = .refused

/-- What the handlers can cope with, for the bytes that were received and the number of
them that count. -/
def Sound (l : Link) (proto : AuthProto) (code : UInt8) (pkt : Bytes) (len : Nat) : Prop :=
  match proto with
  | .pap =>
      (code = papAck ∨ code = papNak) → l.auth.self_to_peer = protoPap →
        ∀ msg_len ∈ (pkt.take len).head?, msg_len.toNat < len
  | .chap => True
  | .eap =>
      (len = 0 → pkt = []) ∧
        (l.auth.eap.options.enabled eapConfRadius = false → code = eapResponse →
          pkt.take len ≠ [eapTypeNak])

section Within

def Within (len : Nat) : Access → Prop
  | .byte place => place < len
  | .null => False

structure Shows (pkt : Payload) (bytes : Bytes) : Prop where
  mem : ∀ place, place < bytes.length → pkt.mem place = bytes.getD place 0
  given : bytes ≠ [] → pkt.given = true

variable {pkt : Payload} {bytes : Bytes}

theorem shows_take (pkt : Bytes) (junk : Nat → UInt8) (len : Nat) :
    Shows (payload pkt junk) (pkt.take len) where
  mem place below := by
    rw [List.length_take] at below
    have inside : place < pkt.length := by omega
    have counted : place < len := by omega
    simp [payload, List.getD_eq_getElem?_getD, counted, inside]
  given some := by
    have nonempty : pkt ≠ [] := by
      rintro rfl
      exact some List.take_nil
    exact decide_eq_true nonempty

theorem within_look (given : pkt.given = true) {place len : Nat} :
    Within len (pkt.look place) ↔ place < len := by
  unfold Payload.look
  rw [if_pos given]
  exact Iff.rfl

theorem within_copy (given : pkt.given = true) {start count len : Nat}
    (fits : start + count ≤ len) : ∀ access ∈ pkt.copy start count, Within len access := by
  intro access member
  obtain ⟨place, listed, rfl⟩ := List.mem_map.mp member
  have bounds := List.mem_range'_1.mp listed
  rw [within_look given]
  omega

theorem copy_fits (given : pkt.given = true) {start count len : Nat} (some : 0 < count)
    (within : ∀ access ∈ pkt.copy start count, Within len access) : start + count ≤ len := by
  have last : pkt.look (start + count - 1) ∈ pkt.copy start count :=
    List.mem_map.mpr ⟨start + count - 1, List.mem_range'_1.mpr (by omega), rfl⟩
  have below := (within_look given).mp (within _ last)
  omega

theorem within_text (given : pkt.given = true) {start count len : Nat}
    (fits : start + count ≤ len) : ∀ access ∈ pkt.text start count, Within len access := by
  induction count generalizing start with
  | zero => exact nofun
  | succ count ih =>
      intro access member
      unfold Payload.text at member
      rcases List.mem_cons.mp member with rfl | later
      · rw [within_look given]
        omega
      · split_ifs at later
        · cases later
        · exact ih (by omega) access later

end Within

section Pap

variable {pkt : Payload} {bytes : Bytes} (shows : Shows pkt bytes)
include shows

omit shows in
/-- The two checks of a request: the length of the password is there, and so are its bytes. -/
theorem papParse_cons_eq_none (first : UInt8) (rest : Bytes) :
    papParse (first :: rest) = none ↔ rest.length ≤ first.toNat ∨
      rest.length < first.toNat + 1 + (rest.getD first.toNat 0).toNat := by
  unfold papParse
  dsimp only
  by_cases nameless : rest.length ≤ first.toNat
  · rw [List.drop_eq_nil_of_le nameless]
    exact iff_of_true rfl (.inl nameless)
  · have inside : first.toNat < rest.length := Nat.lt_of_not_le nameless
    rw [List.drop_eq_getElem_cons inside, List.getD_eq_getElem _ _ inside]
    dsimp only
    rw [List.length_drop]
    split_ifs with missing
    · exact iff_of_true rfl (.inr (by omega))
    · exact iff_of_false nofun (by omega)

theorem papRequestReads_careful :
    (∀ access ∈ (papRequestReads pkt bytes.length).reads, Within bytes.length access) ∧
      ((papRequestReads pkt bytes.length).verdict = .refused ↔ papParse bytes = none) := by
  cases bytes with
  | nil => exact ⟨nofun, iff_of_true rfl rfl⟩
  | cons first rest =>
      have given := shows.given (List.cons_ne_nil first rest)
      have name_len : pkt.mem 0 = first := shows.mem 0 (Nat.zero_lt_succ _)
      have sized : (first :: rest).length = rest.length + 1 := rfl
      have look {place : Nat} (below : place < rest.length + 1) :
          Within (rest.length + 1) (pkt.look place) := (within_look given).mpr below
      have pass_len (below : first.toNat < rest.length) :
          pkt.mem (1 + first.toNat) = rest.getD first.toNat 0 := by
        rw [shows.mem _ (by rw [sized]; omega), Nat.add_comm 1]
        rfl
      unfold papRequestReads
      rw [name_len, if_neg (by simp), sized, papParse_cons_eq_none]
      dsimp only
      split_ifs with nameless passless
      · refine ⟨?_, iff_of_true rfl (.inl (by omega))⟩
        intro access member
        rw [List.mem_singleton.mp member]
        exact look (Nat.zero_lt_succ _)
      · rw [pass_len (by omega)] at passless
        refine ⟨?_, iff_of_true rfl (.inr (by omega))⟩
        intro access member
        simp only [Heard.refuse, List.mem_cons, List.not_mem_nil, or_false] at member
        rcases member with rfl | rfl
        · exact look (Nat.zero_lt_succ _)
        · exact look (by omega)
      · constructor
        · intro access member
          simp only [List.mem_append, List.mem_cons, List.not_mem_nil, or_false] at member
          rcases member with ((rfl | rfl) | name) | pass
          · exact look (Nat.zero_lt_succ _)
          · exact look (by omega)
          · exact within_copy given (by omega) access name
          · exact within_copy given (by omega) access pass
        · rw [pass_len (by omega)] at passless
          exact iff_of_false nofun (by omega)

/-- The message of an answer is read beyond the packet unless its length is in order. -/
theorem papMessageReads_careful_iff :
    (∀ access ∈ papMessageReads pkt bytes.length, Within bytes.length access) ↔
      ∀ msg_len ∈ bytes.head?, msg_len.toNat < bytes.length := by
  cases bytes with
  | nil => exact ⟨fun _ => nofun, fun _ => nofun⟩
  | cons first rest =>
      have given := shows.given (List.cons_ne_nil first rest)
      have msg_len : pkt.mem 0 = first := shows.mem 0 (Nat.zero_lt_succ _)
      have sized : (first :: rest).length = rest.length + 1 := rfl
      have bounded := first.toNat_lt
      unfold papMessageReads Payload.showMesg
      rw [sized, if_pos (Nat.zero_lt_succ _), msg_len, Nat.add_sub_cancel]
      dsimp only
      constructor
      · intro within found same
        obtain rfl : first = found := Option.some.inj same
        by_contra long
        rw [if_neg (by omega)] at within
        have some : 0 < min first.toNat 255 := by omega
        have fits := copy_fits given some fun access member =>
          within access (List.mem_cons_of_mem _ member)
        omega
      · intro fits access member
        have short := fits first rfl
        rcases List.mem_cons.mp member with rfl | message
        · exact (within_look given).mpr (Nat.zero_lt_succ _)
        · refine within_copy given ?_ access message
          split_ifs <;> omega

theorem papInputReads_careful_iff (l : Link) (code : UInt8) :
    let heard := papInputReads l code pkt bytes.length
    ((∀ access ∈ heard.reads, Within bytes.length access) ∧
        (TooShort l .pap code bytes → heard.verdict = .refused)) ↔
      ((code = papAck ∨ code = papNak) → l.auth.self_to_peer = protoPap →
        ∀ msg_len ∈ bytes.head?, msg_len.toNat < bytes.length) := by
  intro heard
  change ((∀ access ∈ (papInputReads l code pkt bytes.length).reads, _) ∧
    (_ → (papInputReads l code pkt bytes.length).verdict = _)) ↔ _
  unfold papInputReads
  by_cases request : code = papRequest
  · have no_answer : ¬ (code = papAck ∨ code = papNak) := by
      rw [request]
      decide
    rw [if_pos request]
    refine iff_of_true ?_ (fun answer => absurd answer no_answer)
    by_cases expected : l.auth.peer_to_self = protoPap
    · rw [if_neg (not_not.mpr expected)]
      obtain ⟨within, refused⟩ := papRequestReads_careful shows
      exact ⟨within, fun short => refused.mpr short.2.2⟩
    · rw [if_pos expected]
      exact ⟨nofun, fun short => absurd short.2.1 expected⟩
  · have long (heard : Heard) : TooShort l .pap code bytes → heard.verdict = .refused :=
      fun short => absurd short.1 request
    rw [if_neg request]
    by_cases answer : code = papAck ∨ code = papNak
    · rw [if_pos answer]
      by_cases expected : l.auth.self_to_peer = protoPap
      · rw [if_neg (not_not.mpr expected)]
        have careful := papMessageReads_careful_iff shows
        exact ⟨fun both _ _ => careful.mp both.1,
          fun sound => ⟨careful.mpr (sound answer expected), long _⟩⟩
      · rw [if_pos expected]
        exact iff_of_true ⟨nofun, long _⟩ (fun _ found => absurd found expected)
    · rw [if_neg answer]
      exact iff_of_true ⟨nofun, long _⟩ (fun found => absurd found answer)

end Pap

section Chap

variable {pkt : Payload} {bytes : Bytes} (shows : Shows pkt bytes)
include shows

theorem chapParsePktReads_careful {skipped data : Bytes} (parts : bytes = skipped ++ data) :
    let heard := chapParsePktReads pkt skipped.length data.length
    (∀ access ∈ heard.reads, Within bytes.length access) ∧
      (heard.verdict = .refused ↔ chapParsePkt data data.length = none) := by
  intro heard
  have sized : bytes.length = skipped.length + data.length := by rw [parts, List.length_append]
  cases data with
  | nil =>
      have refused : heard = .refuse [] := by
        change chapParsePktReads pkt skipped.length 0 = _
        unfold chapParsePktReads
        exact if_pos (.inr (by decide))
      rw [refused]
      exact ⟨nofun, iff_of_true rfl rfl⟩
  | cons first rest =>
      have given : pkt.given = true := by
        refine shows.given ?_
        rw [parts]
        exact List.append_ne_nil_of_right_ne_nil _ (List.cons_ne_nil first rest)
      have val_len : pkt.mem skipped.length = first := by
        have below : skipped.length < bytes.length := by
          rw [sized, List.length_cons]
          omega
        rw [shows.mem _ below, parts]
        simp [List.getD_eq_getElem?_getD]
      have look {place : Nat} (below : place < bytes.length) :
          Within bytes.length (pkt.look place) := (within_look given).mpr below
      rw [List.length_cons] at sized
      change (∀ access ∈ (chapParsePktReads pkt skipped.length (rest.length + 1)).reads, _) ∧
        ((chapParsePktReads pkt skipped.length (rest.length + 1)).verdict = _ ↔
          chapParsePkt (first :: rest) (rest.length + 1) = none)
      unfold chapParsePktReads chapParsePkt
      rw [val_len, given, if_neg (by simp), List.getD_cons_zero]
      dsimp only
      by_cases bogus : first.toNat < 1 ∨ first.toNat > chapMaxVal ∨
          rest.length + 1 < first.toNat + 1 ∨ rest.length + 1 - first.toNat - 1 > chapMaxName
      · rw [if_pos bogus, if_pos (.inr (.inr bogus))]
        refine ⟨?_, iff_of_true rfl rfl⟩
        intro access member
        rw [List.mem_singleton.mp member]
        exact look (by omega)
      · have fits : ¬ (first :: rest = [] ∨ rest.length + 1 < 1 ∨ first.toNat < 1 ∨
            first.toNat > chapMaxVal ∨ rest.length + 1 < first.toNat + 1 ∨
            rest.length + 1 - first.toNat - 1 > chapMaxName) := by
          rintro (nothing | empty | wrong)
          · cases nothing
          · omega
          · exact bogus wrong
        rw [if_neg bogus, if_neg fits]
        refine ⟨?_, iff_of_false nofun nofun⟩
        intro access member
        simp only [List.cons_append, List.mem_cons, List.mem_append] at member
        rcases member with rfl | name | value
        · exact look (by omega)
        · exact within_copy given (by omega) access name
        · exact within_copy given (by omega) access value

theorem chapInputReads_careful (l : Link) (code : UInt8) :
    let heard := chapInputReads l code pkt 0 bytes.length
    (∀ access ∈ heard.reads, Within bytes.length access) ∧
      (TooShort l .chap code bytes → heard.verdict = .refused) := by
  intro heard
  by_cases parses : code = chapChallenge ∨ code = chapResponse
  · have parsed : heard = chapParsePktReads pkt 0 bytes.length := if_pos parses
    obtain ⟨within, refused⟩ := chapParsePktReads_careful shows (List.nil_append bytes).symm
    rw [parsed]
    exact ⟨within, fun short => refused.mpr short.2⟩
  · refine ⟨?_, fun short => absurd short.1 parses⟩
    change ∀ access ∈ (chapInputReads l code pkt 0 bytes.length).reads, _
    unfold chapInputReads
    rw [if_neg parses]
    split_ifs
    · exact nofun
    · cases bytes with
      | nil => exact nofun
      | cons first rest =>
          exact within_copy (shows.given (List.cons_ne_nil first rest)) (by omega)
    · exact nofun

end Chap

section Eap

variable {pkt : Payload} {type : UInt8} {data : Bytes} (shows : Shows pkt (type :: data))
include shows

omit shows in
theorem eapDataLen_cons (fits : data.length + 1 < 65536) :
    eapDataLen (type :: data).length = data.length := by
  unfold eapDataLen
  rw [List.length_cons]
  omega

theorem within_eapTextReads (most : Nat) :
    ∀ access ∈ eapTextReads pkt (type :: data).length most,
      Within (type :: data).length access := by
  unfold eapTextReads
  rw [if_neg (by simp)]
  refine within_text (shows.given (List.cons_ne_nil type data)) ?_
  rw [List.length_cons]
  omega

theorem eapRadiusProxyReads_careful (code : UInt8) :
    ∀ access ∈ (eapRadiusProxyReads code pkt (type :: data).length).reads,
      Within (type :: data).length access := by
  have given := shows.given (List.cons_ne_nil type data)
  intro access member
  unfold eapRadiusProxyReads at member
  simp only [given, if_true, List.mem_append, List.mem_singleton] at member
  rcases member with (rfl | ident) | copied
  · exact (within_look given).mpr (by simp)
  · split_ifs at ident
    · exact within_eapTextReads shows _ access ident
    · cases ident
  · exact within_copy given (by omega) access copied

theorem eapRequestReads_careful (l : Link) (fits : data.length + 1 < 65536) :
    let heard := eapRequestReads l pkt type (type :: data).length
    (∀ access ∈ heard.reads, Within (type :: data).length access) ∧
      (type = eapTypeMd5Chal → eapTypeMd5Chal ∈ l.auth.eap.peer_types →
        chapParsePkt data data.length = none → heard.verdict = .refused) := by
  intro heard
  change (∀ access ∈ (eapRequestReads l pkt type (type :: data).length).reads, _) ∧
    (_ → _ → _ → (eapRequestReads l pkt type (type :: data).length).verdict = _)
  unfold eapRequestReads
  split_ifs with plain method
  · refine ⟨nofun, ?_⟩
    rintro rfl
    exact absurd plain (by decide)
  · rw [eapDataLen_cons fits]
    obtain ⟨within, refused⟩ := chapParsePktReads_careful shows
      (show type :: data = [type] ++ data from rfl)
    exact ⟨within, fun _ _ => refused.mpr⟩
  · exact ⟨nofun, fun _ _ _ => rfl⟩

theorem eapResponseReads_careful_iff (logs : Bool) (fits : data.length + 1 < 65536) :
    let heard := eapResponseReads logs pkt type (type :: data).length
    ((∀ access ∈ heard.reads, Within (type :: data).length access) ↔
      type :: data ≠ [eapTypeNak]) ∧
    (type = eapTypeMd5Chal → chapParsePkt data data.length = none → heard.verdict = .refused) := by
  intro heard
  have given := shows.given (List.cons_ne_nil type data)
  change ((∀ access ∈ (eapResponseReads logs pkt type (type :: data).length).reads, _) ↔ _) ∧
    (_ → _ → (eapResponseReads logs pkt type (type :: data).length).verdict = _)
  unfold eapResponseReads
  have other (method : type ≠ eapTypeNak) : type :: data ≠ [eapTypeNak] := by
    intro same
    cases same
    exact method rfl
  by_cases shown : type = eapTypeIdent ∨ type = eapTypeNotif
  · have named : type ≠ eapTypeNak := by
      rintro rfl
      exact absurd shown (by decide)
    rw [if_pos shown]
    refine ⟨iff_of_true ?_ (other named), ?_⟩
    · cases logs with
      | true => exact within_eapTextReads shows _
      | false => exact nofun
    · rintro rfl
      exact absurd shown (by decide)
  · rw [if_neg shown]
    by_cases nak : type = eapTypeNak
    · subst nak
      rw [if_pos rfl]
      refine ⟨?_, nofun⟩
      by_cases bare : (eapTypeNak :: data).length < 2
      · have empty : data = [] := by
          rw [List.length_cons] at bare
          exact List.length_eq_zero_iff.mp (by omega)
        subst empty
        rw [if_pos bare]
        refine iff_of_false ?_ (not_not.mpr rfl)
        intro within
        exact within .null (List.mem_singleton_self _)
      · rw [if_neg bare]
        refine iff_of_true ?_ ?_
        · intro access member
          rw [List.mem_singleton.mp member]
          exact (within_look given).mpr (by omega)
        · intro same
          rw [same] at bare
          exact absurd bare (by decide)
    · rw [if_neg nak]
      by_cases md5 : type = eapTypeMd5Chal
      · rw [if_pos md5, eapDataLen_cons fits]
        obtain ⟨within, refused⟩ := chapParsePktReads_careful shows
          (show type :: data = [type] ++ data from rfl)
        exact ⟨iff_of_true within (other nak), fun _ => refused.mpr⟩
      · rw [if_neg md5]
        refine ⟨iff_of_true ?_ (other nak), fun md5' => absurd md5' md5⟩
        intro access member
        cases member

theorem eapInputReads_careful_iff (logs : Bool) (l : Link) (code : UInt8)
    (fits : data.length + 1 < 65536) :
    let heard := eapInputReads logs l code pkt (type :: data).length
    ((∀ access ∈ heard.reads, Within (type :: data).length access) ∧
        (TooShort l .eap code (type :: data) → heard.verdict = .refused)) ↔
      (l.auth.eap.options.enabled eapConfRadius = false → code = eapResponse →
        type :: data ≠ [eapTypeNak]) := by
  intro heard
  have given := shows.given (List.cons_ne_nil type data)
  have mem : pkt.mem 0 = type := shows.mem 0 (Nat.zero_lt_succ _)
  have first (access : Access) (member : access ∈ [pkt.look 0]) :
      Within (type :: data).length access := by
    rw [List.mem_singleton.mp member]
    exact (within_look given).mpr (Nat.zero_lt_succ _)
  -- With the type read, all depends on the branch.
  have branch (rest : Heard) (same : heard = rest.after [pkt.look 0]) :
      (∀ access ∈ heard.reads, Within (type :: data).length access) ↔
        ∀ access ∈ rest.reads, Within (type :: data).length access := by
    rw [same]
    constructor
    · intro within access member
      exact within access (List.mem_append_right _ member)
    · intro within access member
      rcases List.mem_append.mp member with early | late
      · exact first access early
      · exact within access late
  have unfolded : heard = (if l.auth.eap.options.enabled eapConfRadius then
        eapRadiusProxyReads code pkt (type :: data).length
      else if code = eapRequest then eapRequestReads l pkt type (type :: data).length
      else if code = eapResponse then eapResponseReads logs pkt type (type :: data).length
      else .nothing).after [pkt.look 0] := by
    change eapInputReads logs l code pkt (type :: data).length = _
    unfold eapInputReads
    simp only [given, mem, if_true]
  have verdict (rest : Heard) (same : heard = rest.after [pkt.look 0]) :
      heard.verdict = rest.verdict := by
    rw [same]
    rfl
  cases proxy : l.auth.eap.options.enabled eapConfRadius with
  | true =>
      rw [proxy, if_pos rfl] at unfolded
      refine iff_of_true ⟨(branch _ unfolded).mpr (eapRadiusProxyReads_careful shows code), ?_⟩ nofun
      intro short
      exact absurd (proxy.symm.trans short.1) (by decide)
  | false =>
      rw [proxy, if_neg (by decide)] at unfolded
      by_cases request : code = eapRequest
      · subst request
        rw [if_pos rfl] at unfolded
        obtain ⟨within, refused⟩ := eapRequestReads_careful shows l fits
        refine iff_of_true ⟨(branch _ unfolded).mpr within, ?_⟩
          (fun _ response => absurd response (by decide))
        rintro ⟨-, ⟨-, empty⟩ | ⟨response, -⟩ | ⟨method, found, parts, short⟩⟩
        · cases empty
        · exact absurd response (by decide)
        · cases parts
          rw [verdict _ unfolded]
          refine refused rfl ?_ short
          rcases method with ⟨-, acceptable⟩ | response
          · exact acceptable
          · exact absurd response (by decide)
      · rw [if_neg request] at unfolded
        by_cases response : code = eapResponse
        · subst response
          rw [if_pos rfl] at unfolded
          obtain ⟨within, refused⟩ := eapResponseReads_careful_iff shows logs fits
          rw [branch _ unfolded, within]
          refine ⟨fun both _ _ => both.1, fun sound => ⟨sound rfl rfl, ?_⟩⟩
          rintro ⟨-, ⟨-, empty⟩ | ⟨-, bare⟩ | ⟨-, found, parts, short⟩⟩
          · cases empty
          · exact absurd bare (sound rfl rfl)
          · cases parts
            rw [verdict _ unfolded]
            exact refused rfl short
        · rw [if_neg response] at unfolded
          refine iff_of_true ⟨(branch _ unfolded).mpr nofun, ?_⟩
            (fun _ found => absurd found response)
          rintro ⟨-, ⟨known, -⟩ | ⟨found, -⟩ | ⟨known, -⟩⟩
          · exact absurd known (not_or.mpr ⟨request, response⟩)
          · exact absurd found response
          · rcases known with ⟨found, -⟩ | found
            · exact absurd found request
            · exact absurd found response

end Eap

section Packets

variable {logs : Bool} {l : Link} {proto : AuthProto} {code : UInt8} {junk : Nat → UInt8}

/-- Without a payload nothing is read, and the handler of EAP goes by the type 0. -/
theorem eapInputReads_nil (logs : Bool) (l : Link) (code : UInt8) (mem : Nat → UInt8) :
    let heard := eapInputReads logs l code ⟨false, mem⟩ 0
    heard.reads = [] ∧ (TooShort l .eap code [] → heard.verdict = .refused) := by
  intro heard
  have unfolded : heard = (if l.auth.eap.options.enabled eapConfRadius then
        eapRadiusProxyReads code ⟨false, mem⟩ 0
      else if code = eapRequest then .refuse []
      else if code = eapResponse then .refuse []
      else .nothing).after [] := rfl
  rw [unfolded]
  constructor
  · split_ifs with proxy
    · have untyped : ¬ (code = eapResponse ∧ (0 : UInt8) = eapTypeIdent) := fun both =>
        absurd both.2 (by decide)
      simp [Heard.after, eapRadiusProxyReads, Payload.copy, untyped]
    · rfl
    · rfl
    · rfl
  · rintro ⟨proxy, known⟩
    rw [proxy, if_neg (by decide)]
    split_ifs with request response
    · rfl
    · rfl
    · rcases known with ⟨found, -⟩ | ⟨-, bare⟩ | ⟨-, found, parts, -⟩
      · exact absurd found (not_or.mpr ⟨request, response⟩)
      · cases bare
      · cases parts

/-- The handlers keep to the bytes that count, and refuse packets that are too short, exactly
where they can cope with the packet. -/
theorem authHandlerReads_careful_iff {pkt : Bytes} {len : Nat} (counted : len ≤ pkt.length)
    (fits : pkt.length < 65536) :
    let heard := authHandlerReads logs l proto code (payload pkt junk) len
    ((∀ access ∈ heard.reads, Within len access) ∧
        (TooShort l proto code (pkt.take len) → heard.verdict = .refused)) ↔
      Sound l proto code pkt len := by
  intro heard
  have shows := shows_take pkt junk len
  have taken : (pkt.take len).length = len := by
    rw [List.length_take]
    omega
  cases proto with
  | pap =>
      have careful := papInputReads_careful_iff shows l code
      rw [taken] at careful
      exact careful
  | chap =>
      have careful := chapInputReads_careful shows l code
      rw [taken] at careful
      exact iff_of_true careful trivial
  | eap =>
      by_cases nothing : pkt = []
      · subst nothing
        obtain rfl : len = 0 := Nat.le_zero.mp counted
        obtain ⟨reads, refused⟩ := eapInputReads_nil logs l code junk
        refine iff_of_true ⟨?_, refused⟩ ⟨fun _ => rfl, fun _ _ => nofun⟩
        change ∀ access ∈ (eapInputReads logs l code ⟨false, junk⟩ 0).reads, _
        rw [reads]
        exact nofun
      · have given : (payload pkt junk).given = true := decide_eq_true nothing
        have early : Access.byte 0 ∈ heard.reads := by
          refine List.mem_append_right _ (List.mem_append_left _ ?_)
          rw [if_pos given, Payload.look, if_pos given]
          exact List.mem_singleton_self _
        cases len with
        | zero =>
            refine iff_of_false ?_ (fun sound => nothing (sound.1 rfl))
            rintro ⟨within, -⟩
            exact Nat.not_lt_zero 0 (within _ early)
        | succ size =>
            cases bytes : pkt.take (size + 1) with
            | nil => simp [bytes] at taken
            | cons type data =>
                rw [bytes] at shows taken
                have room : data.length + 1 < 65536 := by
                  rw [List.length_cons] at taken
                  omega
                have careful := eapInputReads_careful_iff shows logs l code room
                rw [taken] at careful
                have logged : (∀ access ∈ heard.reads, Within (size + 1) access) ↔
                    ∀ access ∈ (eapInputReads logs l code (payload pkt junk) (size + 1)).reads,
                      Within (size + 1) access := by
                  refine ⟨fun within access member => within access (List.mem_append_right _ member),
                    fun within access member => ?_⟩
                  rcases List.mem_append.mp member with line | read
                  · split_ifs at line
                    · rw [List.mem_singleton.mp line]
                      exact (within_look given).mpr (Nat.zero_lt_succ size)
                    · cases line
                  · exact within access read
                have sound : Sound l .eap code pkt (size + 1) ↔
                    (l.auth.eap.options.enabled eapConfRadius = false → code = eapResponse →
                      type :: data ≠ [eapTypeNak]) := by
                  rw [← bytes]
                  exact ⟨fun both => both.2, fun method => ⟨nofun, method⟩⟩
                rw [logged, sound]
                exact careful

/-- What counts of a payload is what was received and is within the declared length. -/
theorem authHeader_counts {packet : Packet} {id : UInt8} {pkt : Bytes} {len : Nat}
    (header : authHeader packet.bytes = some (code, id, pkt, len)) :
    packet.bytes.length = pkt.length + 4 ∧ len ≤ pkt.length ∧
      ∀ place, place < len ↔ place < pkt.length ∧ place + 4 < declared packet.bytes := by
  obtain ⟨bytes, fits⟩ := packet
  unfold authHeader at header
  dsimp only at header ⊢
  split at header
  · rename_i code' id' high low pkt'
    rw [List.length_cons, List.length_cons, List.length_cons, List.length_cons] at fits
    have whole : (pkt'.length + 4) % 65536 = pkt'.length + 4 := Nat.mod_eq_of_lt fits
    rw [whole] at header
    split_ifs at header with bad
    cases header
    have read : declared (code :: id :: high :: low :: pkt) = (be16 high low).toNat := rfl
    refine ⟨rfl, by omega, ?_⟩
    intro place
    rw [read]
    omega
  · cases header

/-- `AuthInput` keeps to the bytes of a packet and refuses what is too short, whatever lies
behind the packet, if and only if it drops the packet or its handler can cope with it. -/
theorem authInput_careful_iff (logs : Bool) (l : Link) (proto : AuthProto) (junk : Nat → UInt8)
    (packet : Packet) :
    Careful logs l proto junk packet ↔
      ∀ code id pkt len, (l.lcp.phase = .authenticate ∨ l.lcp.phase = .network) →
        authHeader packet.bytes = some (code, id, pkt, len) → Sound l proto code pkt len := by
  unfold Careful authInputReads
  by_cases stray : l.lcp.phase ≠ .authenticate ∧ l.lcp.phase ≠ .network
  · have out : ¬ (l.lcp.phase = .authenticate ∨ l.lcp.phase = .network) := by
      rintro (here | here)
      · exact stray.1 here
      · exact stray.2 here
    rw [if_pos stray]
    exact iff_of_true ⟨nofun, fun _ _ _ _ reached => absurd reached out⟩
      (fun _ _ _ _ reached => absurd reached out)
  · have reached : l.lcp.phase = .authenticate ∨ l.lcp.phase = .network := by
      by_contra out
      exact stray (not_or.mp out)
    rw [if_neg stray]
    cases header : authHeader packet.bytes with
    | none => exact iff_of_true ⟨nofun, nofun⟩ nofun
    | some parts =>
        obtain ⟨code, id, pkt, len⟩ := parts
        obtain ⟨whole, counted, inside⟩ := authHeader_counts header
        have fits := packet.fits
        have careful := @authHandlerReads_careful_iff logs l proto code junk pkt len counted
          (by omega)
        have same (access : Access) : Inside packet access ↔ Within len access := by
          cases access with
          | null => exact Iff.rfl
          | byte place =>
              change place + 4 < packet.bytes.length ∧ _ ↔ place < len
              rw [inside, whole, Nat.add_lt_add_iff_right]
        dsimp only
        simp only [same]
        constructor
        · rintro ⟨within, refused⟩ code' id' pkt' len' _ parts
          cases parts
          exact careful.mp ⟨within, refused code id pkt len reached rfl⟩
        · intro sound
          obtain ⟨within, refused⟩ := careful.mpr (sound code id pkt len reached rfl)
          refine ⟨within, ?_⟩
          intro code' id' pkt' len' _ parts
          cases parts
          exact refused

def authenticating : Link :=
  let w := lcpInit LinkSetup.bare
  { w.layer with lcp := { w.layer.lcp with phase := .authenticate } }

/-- An EAP Nak without the type that the peer would rather have. -/
def bareNak : Packet := ⟨[2, 1, 0, 5, 3], by decide⟩

/-- The handler of EAP follows a null pointer for it. -/
theorem authInput_follows_null :
    Access.null ∈ (authInputReads false authenticating .eap (fun _ => 0) bareNak).reads ∧
      ¬ Careful false authenticating .eap (fun _ => 0) bareNak := by
  have followed :
      Access.null ∈ (authInputReads false authenticating .eap (fun _ => 0) bareNak).reads :=
    List.mem_cons_of_mem _ (List.mem_singleton_self _)
  exact ⟨followed, fun careful => careful.1 .null followed⟩

end Packets

end Mpd.PayloadReads
