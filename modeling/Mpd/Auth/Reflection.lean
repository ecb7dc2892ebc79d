import Mpd.Link.Init
import Mathlib.Data.List.GetD

/-! What a peer gains by sending our own challenge back to us. The answer to another
challenge is accepted for ours where the hash heeds no more than a common prefix. -/

set_option autoImplicit false

namespace Mpd

/-- The hashes tell the challenges apart that they are given, and the responses of
MS-CHAP have their 24 bytes. -/
structure InjectiveHashes (crypto : Crypto) : Prop where
  md5 : Function.Injective crypto.md5
  ntChallengeResponse : ∀ {c c' secret : Bytes}, c.length = chapMsoftChalLen →
    c'.length = chapMsoftChalLen →
    crypto.ntChallengeResponse c secret = crypto.ntChallengeResponse c' secret → c = c'
  generateNTResponse : ∀ {c c' peerChal name name' secret : Bytes},
    c.length = chapMsoftv2ChalLen → c'.length = chapMsoftv2ChalLen →
    crypto.generateNTResponse c peerChal name secret =
      crypto.generateNTResponse c' peerChal name' secret → c = c'
  length_ntChallengeResponse : ∀ c secret, (crypto.ntChallengeResponse c secret).length = 24
  length_generateNTResponse : ∀ c peerChal name secret,
    (crypto.generateNTResponse c peerChal name secret).length = 24

/-- The link waits for the answer to a challenge that `ChapSendChallenge` has drawn. -/
def ChapOutstanding (l : Link) : Prop :=
  ∃ before : FsmWorld Link,
    before.layer.originate = l.originate ∧
    before.layer.auth.peer_to_self_alg = l.auth.peer_to_self_alg ∧
    l.auth.peer_to_self_alg ∈ [chapAlgMd5, chapAlgMsoft, chapAlgMsoftv2] ∧
    before.layer.auth.params.chap.chal_data = [] ∧
    l.auth.params.chap.chal_data = (chapSendChallenge before).layer.auth.params.chap.chal_data

def AuthParams.answered (params : AuthParams) (authname value : Bytes) : AuthParams :=
  { params with authname, chap := { params.chap with value } }

/-- `ChapInputFinish` accepts the value, under whatever id and name it comes. -/
def ChapAccepts (l : Link) (secret value : Bytes) : Prop :=
  ∃ id authname, chapAgrees l.env.crypto l.auth.peer_to_self_alg id secret
    (l.auth.params.answered authname value) = true

/-- The peer's challenge is answered, and the answer would pass for that to our own. -/
def ChapReflects (T : FsmType Link) (answers : AsyncAnswers) (proto : UInt16) (id : UInt8)
    (pkt : Bytes) (len : Nat) (w : FsmWorld Link) : Prop :=
  let auth := authDataNew w.layer proto id chapChallenge
  ∃ name value password hash,
    chapCheckChallenge auth w.layer.originate pkt len = some (name, value) ∧
    chapPassword w.layer (auth.named name) = some password ∧
    (chapAnswer (auth.named name) name value (answers.stack.toList.drop value.length)
      (chapEnter proto w)).1 = some hash ∧
    (chapInput T answers auth pkt len w).layer.trace = (authOutput proto
      (if proto = protoChap then chapResponse else eapResponse) id
      (UInt8.ofNat hash.length :: hash ++ name) false eapTypeMd5Chal w).layer.trace ∧
    ChapAccepts w.layer
      (chapGetSecret w.layer.auth.self_to_peer_alg password (chapEnter proto w)).1 hash

/-- A challenge other than ours gets past the checks, although what MS-CHAP reads of it
is ours: the checks heed the bytes that the peer sent, and the origination of the link. -/
def ChapUnguarded (answers : AsyncAnswers) (proto : UInt16) (id : UInt8) (pkt : Bytes)
    (len : Nat) (l : Link) : Prop :=
  let auth := authDataNew l proto id chapChallenge
  ∃ peer_name value,
    chapParsePkt pkt len = some (peer_name, value) ∧
    value ≠ l.auth.params.chap.chal_data ∧
    (l.originate = .unknown ∨ value.length < gIdBytes.length) ∧
    l.auth.self_to_peer_alg ≠ chapAlgMd5 ∧
    l.auth.params.chap.chal_data <+: value ++ answers.stack.toList.drop value.length ∧
    (chapPassword l (auth.named
      (if l.auth.conf.authname ≠ [] then l.auth.conf.authname else peer_name))).isSome

section Drawn

theorem originationPrefix (originate : LinkOriginate) :
    ∃ top, gIdBytes.modifyHead (· ||| (originate.num &&& 0x03) <<< 6) = [top, 0x1E, 0x68] :=
  ⟨_, rfl⟩

theorem length_chapGenRandom {len : Nat} (enough : gIdBytes.length ≤ len) (w : FsmWorld Link) :
    (chapGenRandom len w).1.length = len := by
  simp only [chapGenRandom, List.length_append, List.length_take, List.length_modifyHead,
    List.length_map, List.length_range]
  omega

theorem take_chapGenRandom {len : Nat} (enough : gIdBytes.length ≤ len) (w : FsmWorld Link) :
    (chapGenRandom len w).1.take 3 =
      gIdBytes.modifyHead (· ||| (w.layer.originate.num &&& 0x03) <<< 6) := by
  obtain ⟨top, identified⟩ := originationPrefix w.layer.originate
  have whole : [top, 0x1E, 0x68].take len = [top, 0x1E, 0x68] := List.take_of_length_le enough
  simp only [chapGenRandom, identified, whole]
  rfl

structure ChapDrawn (originate : LinkOriginate) (alg : UInt8) (chal_data : Bytes) : Prop where
  msoft : alg = chapAlgMsoft → chal_data.length = chapMsoftChalLen
  msoftv2 : alg = chapAlgMsoftv2 → chal_data.length = chapMsoftv2ChalLen
  enough : gIdBytes.length ≤ chal_data.length
  identified : chal_data.take 3 = gIdBytes.modifyHead (· ||| (originate.num &&& 0x03) <<< 6)

theorem ChapDrawn.ne_nil {originate : LinkOriginate} {alg : UInt8} {chal_data : Bytes}
    (drawn : ChapDrawn originate alg chal_data) : chal_data ≠ [] := by
  intro empty
  have enough := drawn.enough
  rw [empty] at enough
  exact absurd enough (by decide)

theorem chapDrawn_of_chapGenRandom {alg : UInt8} {len : Nat} (w : FsmWorld Link)
    (enough : gIdBytes.length ≤ len) (msoft : alg = chapAlgMsoft → len = chapMsoftChalLen)
    (msoftv2 : alg = chapAlgMsoftv2 → len = chapMsoftv2ChalLen) :
    ChapDrawn w.layer.originate alg (chapGenRandom len w).1 where
  msoft same := (length_chapGenRandom enough w).trans (msoft same)
  msoftv2 same := (length_chapGenRandom enough w).trans (msoftv2 same)
  enough := by rwa [length_chapGenRandom enough w]
  identified := take_chapGenRandom enough w

theorem chapDrawn_of_outstanding {l : Link} (outstanding : ChapOutstanding l) :
    ChapDrawn l.originate l.auth.peer_to_self_alg l.auth.params.chap.chal_data := by
  obtain ⟨before, originate, alg, known, undrawn, drawn⟩ := outstanding
  rw [drawn, ← originate]
  rw [← alg] at known ⊢
  have sent : (chapSendChallenge before).layer.auth.params =
      (chapMakeChallenge before).layer.auth.params := rfl
  rw [sent]
  unfold chapMakeChallenge
  simp only [undrawn, ne_eq, not_true_eq_false, if_false]
  unfold chapChallengeLength
  simp only [List.mem_cons, List.not_mem_nil, or_false] at known
  obtain md5 | msoft | msoftv2 := known
  · simp only [md5, if_neg (show ¬ chapAlgMd5 = chapAlgMsoft by decide),
      if_neg (show ¬ chapAlgMd5 = chapAlgMsoftv2 by decide), if_true]
    exact chapDrawn_of_chapGenRandom
      { before with layer := { before.layer with randoms := before.layer.randoms + 1 } }
      (Nat.le_trans (by decide) (Nat.le_add_left 16 _))
      (fun same => absurd same (by decide)) (fun same => absurd same (by decide))
  · simp only [msoft, if_true]
    exact chapDrawn_of_chapGenRandom _ (by decide) (fun _ => rfl)
      (fun same => absurd same (by decide))
  · simp only [msoftv2, if_neg (show ¬ chapAlgMsoftv2 = chapAlgMsoft by decide), if_true]
    exact chapDrawn_of_chapGenRandom _ (by decide) (fun same => absurd same (by decide))
      (fun _ => rfl)

/-- A challenge that begins as one of ours is refused unless the origination is unknown. -/
theorem chapIdFails_of_take {originate : LinkOriginate} {value : Bytes}
    (identified : value.take 3 =
      gIdBytes.modifyHead (· ||| (originate.num &&& 0x03) <<< 6)) :
    chapIdFails originate value = true ↔ originate ≠ .unknown := by
  obtain ⟨top, bytes⟩ := originationPrefix originate
  rw [bytes] at identified
  match value, identified with
  | first :: second :: third :: rest, identified =>
      simp only [List.take_succ_cons, List.take_zero, List.cons.injEq, and_true] at identified
      obtain ⟨rfl, rfl, rfl⟩ := identified
      cases originate <;> simp [gIdBytes, LinkOriginate.num] at bytes <;> subst bytes <;>
        simp [chapIdFails, gIdBytes, LinkOriginate.num] <;> decide

end Drawn

section Agreement

variable {crypto : Crypto} (params : AuthParams)

theorem chapNtHash_response {before resp : Bytes} (long : before.length = 24)
    (whole : resp.length = 24) (flag : UInt8) : chapNtHash (before ++ resp ++ [flag]) = resp := by
  rw [chapNtHash, List.append_assoc, ← long, List.drop_left, long, ← whole, List.take_left]

theorem length_response {before resp : Bytes} (long : before.length = 24)
    (whole : resp.length = 24) (flag : UInt8) : (before ++ resp ++ [flag]).length = 49 := by
  simp [long, whole]

theorem getD_response {before resp : Bytes} (long : before.length = 24)
    (whole : resp.length = 24) (flag : UInt8) : (before ++ resp ++ [flag]).getD 48 0 = flag := by
  rw [List.getD_append_right] <;> simp [long, whole]

theorem chapHashAgree_msoft {before before' resp resp' : Bytes} (long : before.length = 24)
    (long' : before'.length = 24) (whole : resp.length = 24) (whole' : resp'.length = 24) :
    chapHashAgree chapAlgMsoft (before ++ resp ++ [1]) (before' ++ resp' ++ [1]) = true ↔
      resp = resp' := by
  simp only [chapHashAgree, show ¬ chapAlgMsoft = chapAlgMd5 by decide, if_false, if_true,
    length_response long whole, length_response long' whole', getD_response long whole,
    getD_response long' whole', chapNtHash_response long whole, chapNtHash_response long' whole']
  simp

theorem chapHashAgree_msoftv2 {before before' resp resp' : Bytes} (long : before.length = 24)
    (long' : before'.length = 24) (whole : resp.length = 24) (whole' : resp'.length = 24) :
    chapHashAgree chapAlgMsoftv2 (before ++ resp ++ [0]) (before' ++ resp' ++ [0]) = true ↔
      resp = resp' := by
  simp only [chapHashAgree, show ¬ chapAlgMsoftv2 = chapAlgMd5 by decide,
    show ¬ chapAlgMsoftv2 = chapAlgMsoft by decide, if_false, if_true,
    length_response long whole, length_response long' whole', chapNtHash_response long whole,
    chapNtHash_response long' whole']
  simp

/-- An answer under MD5 is accepted only where it answers the same challenge. -/
theorem chapAgrees_md5 (hashes : InjectiveHashes crypto) {id id' : UInt8}
    {secret challenge : Bytes} (answers : params.chap.value = crypto.md5 (id :: secret ++ challenge))
    (accepted : chapAgrees crypto chapAlgMd5 id' secret params = true) :
    challenge = params.chap.chal_data := by
  have same : crypto.md5 (id' :: secret ++ params.chap.chal_data) =
      crypto.md5 (id :: secret ++ challenge) := by
    simp only [chapAgrees, chapHash, if_true, Option.any_some, chapHashAgree, Bool.and_eq_true,
      beq_iff_eq] at accepted
    exact accepted.2.trans answers
  have inputs := hashes.md5 same
  simp only [List.cons_append, List.cons.injEq, List.append_cancel_left_eq] at inputs
  exact inputs.2.symm

theorem chapAgrees_msoft (hashes : InjectiveHashes crypto) {id : UInt8}
    {secret challenge : Bytes} (drawn : params.chap.chal_data.length = chapMsoftChalLen)
    (read : challenge.length = chapMsoftChalLen)
    (answers : params.chap.value =
      List.replicate 24 0 ++ crypto.ntChallengeResponse challenge secret ++ [1]) :
    chapAgrees crypto chapAlgMsoft id secret params = true ↔
      challenge = params.chap.chal_data := by
  have unread : (params.chap.chal_data ++ []).take chapMsoftChalLen = params.chap.chal_data := by
    rw [List.append_nil, ← drawn, List.take_length]
  have present : params.chap.chal_data ≠ [] := by
    intro empty
    rw [empty] at drawn
    exact absurd drawn (by decide)
  simp only [chapAgrees, chapHash, show ¬ chapAlgMsoft = chapAlgMd5 by decide, if_false, if_true,
    Option.any_some, answers, Bool.and_eq_true, bne_iff_ne, present, ne_eq, not_false_eq_true,
    true_and, unread]
  rw [chapHashAgree_msoft (List.length_replicate) (List.length_replicate)
    (hashes.length_ntChallengeResponse _ _) (hashes.length_ntChallengeResponse _ _)]
  constructor
  · intro same
    exact (hashes.ntChallengeResponse drawn read same).symm
  · intro same
    rw [same]

theorem chapAgrees_msoftv2 (hashes : InjectiveHashes crypto) {id : UInt8}
    {name secret challenge peerChal : Bytes}
    (drawn : params.chap.chal_data.length = chapMsoftv2ChalLen)
    (read : challenge.length = chapMsoftv2ChalLen) (random : peerChal.length = 16)
    (answers : params.chap.value = peerChal ++ List.replicate 8 0 ++
      crypto.generateNTResponse challenge peerChal (stripDomain name) secret ++ [0]) :
    (chapAgrees crypto chapAlgMsoftv2 id secret params = true →
      challenge = params.chap.chal_data) ∧
    (params.authname = name → challenge = params.chap.chal_data →
      chapAgrees crypto chapAlgMsoftv2 id secret params = true) := by
  have unread : (params.chap.chal_data ++ []).take chapMsoftv2ChalLen = params.chap.chal_data := by
    rw [List.append_nil, ← drawn, List.take_length]
  have present : params.chap.chal_data ≠ [] := by
    intro empty
    rw [empty] at drawn
    exact absurd drawn (by decide)
  have carried : params.chap.value.take 16 = peerChal := by
    rw [answers, List.append_assoc, List.append_assoc, ← random, List.take_left]
  have long : (peerChal ++ List.replicate 8 (0 : UInt8)).length = 24 := by simp [random]
  simp only [chapAgrees, chapHash, show ¬ chapAlgMsoftv2 = chapAlgMd5 by decide,
    show ¬ chapAlgMsoftv2 = chapAlgMsoft by decide, if_false, if_true, Option.any_some,
    Bool.and_eq_true, bne_iff_ne, present, ne_eq, not_false_eq_true, true_and, unread, carried]
  rw [answers, chapHashAgree_msoftv2 long long (hashes.length_generateNTResponse _ _ _ _)
    (hashes.length_generateNTResponse _ _ _ _)]
  constructor
  · intro same
    exact (hashes.generateNTResponse drawn read same).symm
  · intro named same
    rw [named, same]

end Agreement

theorem length_of_chapParsePkt {pkt peer_name value : Bytes} {len : Nat}
    (parsed : chapParsePkt pkt len = some (peer_name, value)) : value.length ≤ chapMaxVal := by
  unfold chapParsePkt at parsed
  dsimp only at parsed
  split_ifs at parsed with bogus
  simp only [not_or, Nat.not_lt, Option.some.injEq, Prod.mk.injEq] at bogus parsed
  rw [← parsed.2]
  exact Nat.le_trans (List.length_take_le _ _) bogus.2.2.2.1

/-- Among the challenges that are read as ours, the check of the origination lets through
those of a link with no origination, and those too short to be identified. -/
theorem chapIdFails_of_begun {originate : LinkOriginate} {alg : UInt8}
    {chal_data value beyond : Bytes} (drawn : ChapDrawn originate alg chal_data)
    (begun : chal_data <+: value ++ beyond) :
    chapIdFails originate value = false ↔
      originate = .unknown ∨ value.length < gIdBytes.length := by
  by_cases short : value.length < gIdBytes.length
  · simp [chapIdFails, short]
  · have three : 3 ≤ value.length := Nat.le_of_not_lt short
    have same : value.take 3 = chal_data.take 3 := by
      obtain ⟨rest, whole⟩ := begun
      have first : (value ++ beyond).take 3 = value.take 3 := List.take_append_of_le_length three
      rw [← first, ← whole]
      exact List.take_append_of_le_length drawn.enough
    have decided := chapIdFails_of_take (same.trans drawn.identified)
    rw [← Bool.not_eq_true, decided]
    simp [short]

/-- What is accepted for ours is the answer to a challenge that is ours as far as the
algorithm reads it. -/
theorem chapAccepts_chapHash {l : Link} (hashes : InjectiveHashes l.env.crypto)
    (outstanding : ChapOutstanding l) {alg : UInt8} (alike : alg = l.auth.peer_to_self_alg)
    {id : UInt8} {name secret value beyond peerChal hash : Bytes}
    (buffer : chapMsoftv2ChalLen ≤ (value ++ beyond).length)
    (random : alg = chapAlgMsoftv2 → peerChal.length = 16)
    (hashed : chapHash l.env.crypto alg id name secret value beyond peerChal = some hash) :
    ChapAccepts l secret hash ↔
      if alg = chapAlgMd5 then value = l.auth.params.chap.chal_data
      else l.auth.params.chap.chal_data <+: value ++ beyond := by
  subst alike
  have drawn := chapDrawn_of_outstanding outstanding
  obtain ⟨_, _, _, known, _⟩ := outstanding
  simp only [List.mem_cons, List.not_mem_nil, or_false] at known
  unfold ChapAccepts
  obtain md5 | msoft | msoftv2 := known
  · rw [md5] at hashed ⊢
    simp only [chapHash, if_true, Option.some.injEq] at hashed
    rw [if_pos rfl]
    constructor
    · rintro ⟨id', authname, accepted⟩
      exact chapAgrees_md5 (l.auth.params.answered authname hash) hashes hashed.symm accepted
    · intro same
      refine ⟨id, [], ?_⟩
      simp [chapAgrees, chapHash, chapHashAgree, AuthParams.answered, drawn.ne_nil, ← hashed, same]
  · have drawn := drawn.msoft msoft
    rw [msoft] at hashed ⊢
    simp only [chapHash, show ¬ chapAlgMsoft = chapAlgMd5 by decide, if_false, if_true,
      Option.some.injEq] at hashed
    have read : ((value ++ beyond).take chapMsoftChalLen).length = chapMsoftChalLen := by
      rw [List.length_take]
      exact Nat.min_eq_left (Nat.le_trans (by decide) buffer)
    rw [if_neg (by decide), List.prefix_iff_eq_take, drawn]
    constructor
    · rintro ⟨id', authname, accepted⟩
      exact ((chapAgrees_msoft (l.auth.params.answered authname hash) hashes drawn read
        hashed.symm).mp accepted).symm
    · intro same
      exact ⟨id, [], (chapAgrees_msoft (l.auth.params.answered [] hash) hashes drawn read
        hashed.symm).mpr same.symm⟩
  · have drawn := drawn.msoftv2 msoftv2
    have random := random msoftv2
    rw [msoftv2] at hashed ⊢
    simp only [chapHash, show ¬ chapAlgMsoftv2 = chapAlgMd5 by decide,
      show ¬ chapAlgMsoftv2 = chapAlgMsoft by decide, if_false, if_true,
      Option.some.injEq] at hashed
    have read : ((value ++ beyond).take chapMsoftv2ChalLen).length = chapMsoftv2ChalLen := by
      rw [List.length_take]
      exact Nat.min_eq_left buffer
    rw [if_neg (by decide), List.prefix_iff_eq_take, drawn]
    constructor
    · rintro ⟨id', authname, accepted⟩
      exact ((chapAgrees_msoftv2 (l.auth.params.answered authname hash) hashes drawn read random
        hashed.symm).1 accepted).symm
    · intro same
      exact ⟨id, name, (chapAgrees_msoftv2 (l.auth.params.answered name hash) hashes drawn read
        random hashed.symm).2 rfl same.symm⟩

section Answer

theorem chapGetSecret_keeps (alg : UInt8) (password : Bytes) (w : FsmWorld Link) :
    (chapGetSecret alg password w).2.layer.trace = w.layer.trace ∧
      (chapGetSecret alg password w).2.layer.auth.chap = w.layer.auth.chap ∧
      (chapGetSecret alg password w).2.layer.env = w.layer.env := by
  unfold chapGetSecret
  dsimp only
  split_ifs
  · exact ⟨rfl, rfl, rfl⟩
  · cases w.layer.auth.params.nt_hash with
    | none => exact ⟨rfl, rfl, rfl⟩
    | some nt_hash => exact ⟨rfl, rfl, rfl⟩

/-- The answer is drawn with the secret, and leaves no trace. -/
theorem chapAnswer_of_password {auth : AuthData} {name value beyond password : Bytes}
    {w : FsmWorld Link} (known : chapPassword w.layer auth = some password) :
    (chapAnswer auth name value beyond w).2.layer.trace = w.layer.trace ∧
      (chapAnswer auth name value beyond w).2.layer.auth.chap = w.layer.auth.chap ∧
      ∃ peerChal : Bytes,
        (w.layer.auth.self_to_peer_alg = chapAlgMsoftv2 → peerChal.length = 16) ∧
        (chapAnswer auth name value beyond w).1 =
          chapHash w.layer.env.crypto w.layer.auth.self_to_peer_alg auth.id name
            (chapGetSecret w.layer.auth.self_to_peer_alg password w).1 value beyond peerChal := by
  obtain ⟨trace, chap, env⟩ :=
    chapGetSecret_keeps w.layer.auth.self_to_peer_alg password w
  unfold chapAnswer
  simp only [known]
  by_cases msoftv2 : w.layer.auth.self_to_peer_alg = chapAlgMsoftv2
  · simp only [if_pos msoftv2]
    refine ⟨trace, chap, (chapGenRandom 16
      (chapGetSecret w.layer.auth.self_to_peer_alg password w).2).1,
      fun _ => length_chapGenRandom (by decide) _, ?_⟩
    rw [← env]
  · simp only [if_neg msoftv2]
    exact ⟨trace, chap, [], fun same => absurd same msoftv2, by rw [← env]⟩

theorem trace_chapSendResponse {w : FsmWorld Link} {resp : Bytes}
    (made : w.layer.auth.chap.resp = some resp) :
    (chapSendResponse w).layer.trace = (authOutput w.layer.auth.chap.proto
      (if w.layer.auth.chap.proto = protoChap then chapResponse else eapResponse)
      w.layer.auth.chap.resp_id resp false eapTypeMd5Chal w).layer.trace := by
  unfold chapSendResponse
  simp only [made]
  rfl

theorem trace_authOutput (proto : UInt16) (code id : UInt8) (ptr : Bytes) (eap_type : UInt8)
    {w w' : FsmWorld Link} (same : w.layer.trace = w'.layer.trace) :
    (authOutput proto code id ptr false eap_type w).layer.trace =
      (authOutput proto code id ptr false eap_type w').layer.trace := by
  simp only [authOutput, FsmWorld.note, same]

/-- The answer goes out as a Response of the protocol that the Challenge came with. -/
theorem trace_chapInput_challenge (T : FsmType Link) (answers : AsyncAnswers) {auth : AuthData}
    {pkt : Bytes} {len : Nat} {w : FsmWorld Link} {name value password hash : Bytes}
    (challenge : auth.code = chapChallenge)
    (checked : chapCheckChallenge auth w.layer.originate pkt len = some (name, value))
    (known : chapPassword w.layer (auth.named name) = some password)
    (answered : (chapAnswer (auth.named name) name value
      (answers.stack.toList.drop value.length) (chapEnter auth.proto w)).1 = some hash) :
    (chapInput T answers auth pkt len w).layer.trace = (authOutput auth.proto
      (if auth.proto = protoChap then chapResponse else eapResponse) auth.id
      (UInt8.ofNat hash.length :: hash ++ name) false eapTypeMd5Chal w).layer.trace := by
  have entered : chapCheckChallenge auth (chapEnter auth.proto w).layer.originate pkt len =
      some (name, value) := checked
  have known : chapPassword (chapEnter auth.proto w).layer (auth.named name) = some password :=
    known
  obtain ⟨trace, chap, -⟩ := @chapAnswer_of_password (auth.named name) name value
    (answers.stack.toList.drop value.length) password _ known
  have proto : (chapAnswer (auth.named name) name value
      (answers.stack.toList.drop value.length) (chapEnter auth.proto w)).2.layer.auth.chap.proto =
        auth.proto := by
    rw [chap]
    rfl
  unfold chapInput
  simp only [challenge, if_true]
  unfold chapRecvChallenge
  simp only [entered, answered]
  rw [trace_chapSendResponse rfl]
  have sent : ∀ u : FsmWorld Link, u.layer.auth.chap.proto = auth.proto →
      u.layer.trace = w.layer.trace →
      (authOutput u.layer.auth.chap.proto
        (if u.layer.auth.chap.proto = protoChap then chapResponse else eapResponse) auth.id
        (UInt8.ofNat hash.length :: hash ++ name) false eapTypeMd5Chal u).layer.trace =
      (authOutput auth.proto (if auth.proto = protoChap then chapResponse else eapResponse) auth.id
        (UInt8.ofNat hash.length :: hash ++ name) false eapTypeMd5Chal w).layer.trace := by
    intro u same quiet
    rw [same]
    exact trace_authOutput _ _ _ _ _ quiet
  exact sent _ proto trace

theorem chapCheckChallenge_eq_some {auth : AuthData} {originate : LinkOriginate} {pkt : Bytes}
    {len : Nat} {name value : Bytes} :
    chapCheckChallenge auth originate pkt len = some (name, value) ↔
      ∃ peer_name, chapParsePkt pkt len = some (peer_name, value) ∧
        value ≠ auth.params.chap.chal_data ∧ chapIdFails originate value = false ∧
        (if auth.conf.authname ≠ [] then auth.conf.authname else peer_name) = name := by
  unfold chapCheckChallenge
  cases chapParsePkt pkt len with
  | none => simp
  | some parsed =>
      obtain ⟨peer_name, found⟩ := parsed
      simp only [Option.some.injEq, Prod.mk.injEq]
      by_cases refused : found = auth.params.chap.chal_data ∨ chapIdFails originate found = true
      · rw [if_pos refused]
        constructor
        · intro impossible
          cases impossible
        · rintro ⟨_, ⟨_, rfl⟩, other, identified, _⟩
          simp [other, identified] at refused
      · rw [if_neg refused]
        simp only [not_or, Bool.not_eq_true] at refused
        simp only [Option.some.injEq, Prod.mk.injEq]
        constructor
        · rintro ⟨named, rfl⟩
          exact ⟨peer_name, ⟨rfl, rfl⟩, refused.1, refused.2, named⟩
        · rintro ⟨_, ⟨rfl, rfl⟩, -, -, named⟩
          exact ⟨named, rfl⟩

theorem some_of_chapHash {crypto : Crypto} {alg : UInt8}
    (known : alg ∈ [chapAlgMd5, chapAlgMsoft, chapAlgMsoftv2])
    (id : UInt8) (name secret value beyond peerChal : Bytes) :
    ∃ hash, chapHash crypto alg id name secret value beyond peerChal = some hash := by
  simp only [List.mem_cons, List.not_mem_nil, or_false] at known
  obtain rfl | rfl | rfl := known <;> exact ⟨_, rfl⟩

/-- The answer to a challenge is of use to the peer exactly when the checks let through a
challenge that the algorithm reads as our own. -/
theorem chapReflects_iff (T : FsmType Link) (answers : AsyncAnswers) (proto : UInt16) (id : UInt8)
    (pkt : Bytes) (len : Nat) {w : FsmWorld Link}
    (hashes : InjectiveHashes w.layer.env.crypto) (outstanding : ChapOutstanding w.layer)
    (alike : w.layer.auth.self_to_peer_alg = w.layer.auth.peer_to_self_alg) :
    ChapReflects T answers proto id pkt len w ↔ ChapUnguarded answers proto id pkt len w.layer := by
  have drawn := chapDrawn_of_outstanding outstanding
  have beyond : ∀ {value : Bytes}, value.length ≤ chapMaxVal →
      chapMsoftv2ChalLen ≤ (value ++ answers.stack.toList.drop value.length).length := by
    intro value short
    simp only [List.length_append, List.length_drop, Vector.length_toList]
    have wide : chapMsoftv2ChalLen ≤ chapMaxVal := by decide
    omega
  constructor
  · rintro ⟨name, value, password, hash, checked, secret, answered, -, accepted⟩
    obtain ⟨peer_name, parsed, other, unidentified, named⟩ :=
      chapCheckChallenge_eq_some.mp checked
    obtain ⟨-, -, peerChal, random, hashed⟩ := @chapAnswer_of_password
      ((authDataNew w.layer proto id chapChallenge).named name) name value
      (answers.stack.toList.drop value.length) password (chapEnter proto w) secret
    rw [answered] at hashed
    have read := (chapAccepts_chapHash hashes outstanding alike
      (beyond (length_of_chapParsePkt parsed)) random hashed.symm).mp accepted
    split_ifs at read with md5
    · exact absurd read other
    · refine ⟨peer_name, value, parsed, other, ?_, md5, read, ?_⟩
      · exact (chapIdFails_of_begun drawn read).mp unidentified
      · rw [← named] at secret
        exact Option.isSome_of_eq_some secret
  · rintro ⟨peer_name, value, parsed, other, unidentified, alg, begun, secret⟩
    obtain ⟨password, secret⟩ := Option.isSome_iff_exists.mp secret
    have checked : chapCheckChallenge (authDataNew w.layer proto id chapChallenge)
        w.layer.originate pkt len = some (_, value) :=
      chapCheckChallenge_eq_some.mpr ⟨peer_name, parsed, other,
        (chapIdFails_of_begun drawn begun).mpr unidentified, rfl⟩
    obtain ⟨-, -, peerChal, random, hashed⟩ := @chapAnswer_of_password
      ((authDataNew w.layer proto id chapChallenge).named _) _ value
      (answers.stack.toList.drop value.length) password (chapEnter proto w) secret
    have known := outstanding
    obtain ⟨_, _, _, known, _⟩ := known
    obtain ⟨hash, made⟩ := some_of_chapHash (alike ▸ known) _ _ _ _ _ peerChal
    refine ⟨_, value, password, hash, checked, secret, hashed.trans made,
      trace_chapInput_challenge T answers rfl checked secret (hashed.trans made), ?_⟩
    refine (chapAccepts_chapHash hashes outstanding alike
      (beyond (length_of_chapParsePkt parsed)) random made).mpr ?_
    rwa [if_neg alg]

/-- The peer gets no answer that it can reflect, exactly when the checks refuse what the
algorithm reads as our own challenge. -/
theorem chapReflectionResists_iff (T : FsmType Link) (answers : AsyncAnswers) (proto : UInt16)
    (id : UInt8) (pkt : Bytes) (len : Nat) {w : FsmWorld Link}
    (hashes : InjectiveHashes w.layer.env.crypto) (outstanding : ChapOutstanding w.layer)
    (alike : w.layer.auth.self_to_peer_alg = w.layer.auth.peer_to_self_alg) :
    ¬ ChapReflects T answers proto id pkt len w ↔
      ¬ ChapUnguarded answers proto id pkt len w.layer :=
  not_congr (chapReflects_iff T answers proto id pkt len hashes outstanding alike)

/-- Primitives that hand out the challenge they are given. -/
def Crypto.plain : Crypto where
  md5 := id
  ntPasswordHash := id
  ntChallengeResponse challenge _ := (challenge ++ List.replicate 24 0).take 24
  generateNTResponse challenge _ _ _ := (challenge ++ List.replicate 24 0).take 24
  generateAuthenticatorResponse hash _ _ _ _ := hash

theorem injectiveHashes_plain : InjectiveHashes .plain where
  md5 := Function.injective_id
  ntChallengeResponse {c c' _} long long' same := by
    have first := congrArg (List.take chapMsoftChalLen) same
    simp only [Crypto.plain, List.take_take] at first
    rwa [show min chapMsoftChalLen 24 = chapMsoftChalLen by decide,
      List.take_left' long, List.take_left' long'] at first
  generateNTResponse {c c' _ _ _ _} long long' same := by
    have first := congrArg (List.take chapMsoftv2ChalLen) same
    simp only [Crypto.plain, List.take_take] at first
    rwa [show min chapMsoftv2ChalLen 24 = chapMsoftv2ChalLen by decide,
      List.take_left' long, List.take_left' long'] at first
  length_ntChallengeResponse c _ := by simp [Crypto.plain]
  length_generateNTResponse c _ _ _ := by simp [Crypto.plain]

def chapReady (alg : UInt8) : FsmWorld Link :=
  let w := lcpInit { LinkSetup.bare with
    env := { LinkSetup.bare.env with crypto := .plain }
    authConf := { LinkSetup.bare.authConf with authname := [109], password := [115] } }
  w.setAuth { w.layer.auth with peer_to_self_alg := alg, self_to_peer_alg := alg }

def chapChallenged (alg : UInt8) : FsmWorld Link := chapFirstChallenge protoChap (chapReady alg)

theorem chapOutstanding_challenged {alg : UInt8}
    (known : alg ∈ [chapAlgMd5, chapAlgMsoft, chapAlgMsoftv2]) :
    ChapOutstanding (chapChallenged alg).layer := by
  have alg_kept : (chapChallenged alg).layer.auth.peer_to_self_alg = alg := by
    simp only [List.mem_cons, List.not_mem_nil, or_false] at known
    obtain rfl | rfl | rfl := known <;> decide
  have originate_kept : (chapChallenged alg).layer.originate = .unknown := by
    simp only [List.mem_cons, List.not_mem_nil, or_false] at known
    obtain rfl | rfl | rfl := known <;> decide
  refine ⟨(chapReady alg).setAuth { (chapReady alg).layer.auth with
    chap := { (chapReady alg).layer.auth.chap with
      proto := protoChap, next_id := 1, retry := authRetries, chalTimer := true } }, ?_, ?_, ?_,
    rfl, rfl⟩
  · rw [originate_kept]
    rfl
  · rw [alg_kept]
    rfl
  · rwa [alg_kept]

/-- Nothing but zeros was on the stack. -/
def AsyncAnswers.quiet : AsyncAnswers where
  action := none
  repCreated := false
  loginsExceeded := false
  started := true
  stack := Vector.replicate chapMaxVal 0

theorem chapReflectionResists_md5 :
    ¬ ChapReflects (lcpType 0) .quiet protoChap 1 [9, 0x3B, 0x1E, 0x68, 0, 0, 0, 0, 0, 0] 10
      (chapChallenged chapAlgMd5) :=
  (chapReflectionResists_iff (lcpType 0) .quiet protoChap 1 _ 10 injectiveHashes_plain
    (chapOutstanding_challenged (by decide)) (by decide)).mpr
    fun ⟨_, _, _, _, _, other, _⟩ => other rfl

/-- Our challenge with one more byte behind it is answered under MS-CHAP. -/
theorem not_chapReflectionResists_longer :
    InjectiveHashes (chapChallenged chapAlgMsoft).layer.env.crypto ∧
      ChapOutstanding (chapChallenged chapAlgMsoft).layer ∧
      (chapChallenged chapAlgMsoft).layer.auth.self_to_peer_alg =
        (chapChallenged chapAlgMsoft).layer.auth.peer_to_self_alg ∧
      ChapReflects (lcpType 0) .quiet protoChap 1 [9, 0x3B, 0x1E, 0x68, 0, 0, 0, 0, 0, 0] 10
        (chapChallenged chapAlgMsoft) := by
  have outstanding := @chapOutstanding_challenged chapAlgMsoft (by decide)
  refine ⟨injectiveHashes_plain, outstanding, by decide, ?_⟩
  refine (chapReflects_iff (lcpType 0) .quiet protoChap 1 _ 10 injectiveHashes_plain outstanding
    (by decide)).mpr ⟨[], [0x3B, 0x1E, 0x68, 0, 0, 0, 0, 0, 0], ?_⟩
  refine ⟨by decide, by decide, .inl (by decide), by decide, 
    ⟨List.replicate 56 0, by decide⟩, by decide⟩

end Answer

end Mpd
