import Mathlib.Data.List.Basic
import Mathlib.Data.List.Induction
import Mathlib.Data.List.ReduceOption
import Mathlib.Logic.Relation

/-! Agreement of two parties over channels that may lose what they carry, but keep its order.
A requester numbers what it sends. A responder judges the requests as they come and answers
those that it accepts, and the requester takes an answer for an agreement if it has the number
that was given last. -/

set_option autoImplicit false

namespace Mpd.Agreement

variable {Content : Type}

structure Verdict (Content : Type) where
  serial : Nat
  content : Content
  accepted : Bool

/-- Everything that was numbered, with the contents of the requests; the requests under way; the
last verdict of the responder; the numbers of the answers under way; whether the requester
takes its last request for accepted; and whether the responder stands by its last verdict. -/
structure Dialogue (Content : Type) where
  numbered : List (Option Content)
  wire : List (Nat × Content)
  heard : Option (Verdict Content)
  answers : List Nat
  agreed : Bool
  bound : Bool

/-- The requests among what is numbered from `serial` on. -/
def requestsFrom : Nat → List (Option Content) → List (Nat × Content)
  | _, [] => []
  | serial, some content :: items => (serial, content) :: requestsFrom (serial + 1) items
  | serial, none :: items => requestsFrom (serial + 1) items

def lastRequest (numbered : List (Option Content)) : Option Content :=
  numbered.reduceOption.getLast?

inductive Step : Dialogue Content → Dialogue Content → Prop where
  | number (d : Dialogue Content) : Step d { d with numbered := d.numbered ++ [none] }
  | request (d : Dialogue Content) (content : Content) :
      Step d { d with
        numbered := d.numbered ++ [some content]
        wire := d.wire ++ [(d.numbered.length, content)]
        agreed := false }
  | lose {d : Dialogue Content} {request : Nat × Content} {wire : List (Nat × Content)} :
      d.wire = request :: wire → Step d { d with wire }
  | hear {d : Dialogue Content} {request : Nat × Content} {wire : List (Nat × Content)}
      (accepted : Bool) : d.wire = request :: wire →
      Step d { d with
        wire
        heard := some { serial := request.1, content := request.2, accepted }
        bound := false }
  | answer {d : Dialogue Content} {verdict : Verdict Content} :
      d.heard = some verdict → verdict.accepted = true →
      Step d { d with answers := d.answers ++ [verdict.serial] }
  | drop {d : Dialogue Content} {serial : Nat} {answers : List Nat} :
      d.answers = serial :: answers → Step d { d with answers }
  | agree {d : Dialogue Content} {serial : Nat} {answers : List Nat} :
      d.answers = serial :: answers → serial + 1 = d.numbered.length →
      Step d { d with answers, agreed := true }
  | withdraw (d : Dialogue Content) : Step d { d with agreed := false }
  | bind {d : Dialogue Content} {verdict : Verdict Content} :
      d.heard = some verdict → verdict.accepted = true → Step d { d with bound := true }
  | release (d : Dialogue Content) : Step d { d with bound := false }

abbrev Steps : Dialogue Content → Dialogue Content → Prop := Relation.ReflTransGen Step

/-- Nothing was asked for after this number. -/
def IsLast (numbered : List (Option Content)) (serial : Nat) : Prop :=
  ∀ later content, numbered[later]? = some (some content) → later ≤ serial

/-- What holds in between. Requests are heard in their order, and only the last of them can
have been agreed upon. -/
structure Sound (d : Dialogue Content) : Prop where
  asked : ∀ request ∈ d.wire, d.numbered[request.1]? = some (some request.2)
  ordered : d.wire.Pairwise fun first second => first.1 < second.1
  unheard : ∀ verdict, d.heard = some verdict → ∀ request ∈ d.wire, verdict.serial < request.1
  heard : ∀ verdict, d.heard = some verdict →
    d.numbered[verdict.serial]? = some (some verdict.content)
  answered : ∀ serial ∈ d.answers, ∃ verdict, d.heard = some verdict ∧ serial ≤ verdict.serial ∧
    (serial = verdict.serial → verdict.accepted = true)
  agreed : d.agreed = true → ∃ verdict, d.heard = some verdict ∧ verdict.accepted = true ∧
    IsLast d.numbered verdict.serial
  bound : d.bound = true → ∃ verdict, d.heard = some verdict ∧ verdict.accepted = true

section Numbers

theorem getElem?_concat_some {numbered : List (Option Content)} {item : Option Content}
    {serial : Nat} {content : Content} (found : numbered[serial]? = some (some content)) :
    (numbered ++ [item])[serial]? = some (some content) := by
  obtain ⟨below, -⟩ := List.getElem?_eq_some_iff.mp found
  rw [List.getElem?_append_left below, found]

theorem IsLast.of_append {first second : List (Option Content)} {serial : Nat}
    (last : IsLast (first ++ second) serial) : IsLast first serial := by
  intro later content found
  obtain ⟨below, -⟩ := List.getElem?_eq_some_iff.mp found
  exact last later content (by rw [List.getElem?_append_left below, found])

theorem IsLast.concat_none {numbered : List (Option Content)} {serial : Nat}
    (last : IsLast numbered serial) : IsLast (numbered ++ [none]) serial := by
  intro later content found
  rw [List.getElem?_append] at found
  split_ifs at found
  · exact last later content found
  · cases position : later - numbered.length <;> simp [position] at found

theorem lastRequest_of_isLast {numbered : List (Option Content)} {serial : Nat}
    {content : Content} (found : numbered[serial]? = some (some content))
    (last : IsLast numbered serial) : lastRequest numbered = some content := by
  induction numbered using List.reverseRecOn with
  | nil => simp at found
  | append_singleton numbered item ih =>
      unfold lastRequest at ih ⊢
      rw [List.reduceOption_append]
      cases item with
      | some newest =>
          have newestFound : (numbered ++ [some newest])[numbered.length]? =
              some (some newest) := by simp
          have bound := last _ _ newestFound
          have within := (List.getElem?_eq_some_iff.mp found).1
          rw [List.length_append, List.length_singleton] at within
          obtain rfl : serial = numbered.length := by omega
          rw [newestFound] at found
          simpa using found
      | none =>
          have earlier : numbered[serial]? = some (some content) := by
            rw [List.getElem?_append] at found
            split_ifs at found
            · exact found
            · cases position : serial - numbered.length <;> simp [position] at found
          have stillLast : IsLast numbered serial := fun later other asked =>
            last later other (getElem?_concat_some asked)
          simpa using ih earlier stillLast

theorem lastRequest_append (first second : List (Option Content)) :
    lastRequest (first ++ second) = (lastRequest second).or (lastRequest first) := by
  unfold lastRequest
  rw [List.reduceOption_append, List.getLast?_append]

end Numbers

section Soundness

variable {d d' : Dialogue Content}

theorem Sound.number (sound : Sound d) : Sound { d with numbered := d.numbered ++ [none] } where
  asked request member := getElem?_concat_some (sound.asked request member)
  ordered := sound.ordered
  unheard := sound.unheard
  heard verdict known := getElem?_concat_some (sound.heard verdict known)
  answered := sound.answered
  agreed holds := by
    obtain ⟨verdict, known, accepted, last⟩ := sound.agreed holds
    exact ⟨verdict, known, accepted, last.concat_none⟩
  bound := sound.bound

theorem Sound.request (sound : Sound d) (content : Content) :
    Sound { d with
      numbered := d.numbered ++ [some content]
      wire := d.wire ++ [(d.numbered.length, content)]
      agreed := false } where
  asked request member := by
    rcases List.mem_append.mp member with earlier | new
    · exact getElem?_concat_some (sound.asked request earlier)
    · obtain rfl := List.mem_singleton.mp new
      simp
  ordered := by
    refine List.pairwise_append.mpr ⟨sound.ordered, List.pairwise_singleton _ _, ?_⟩
    intro earlier member new same
    obtain rfl := List.mem_singleton.mp same
    exact (List.getElem?_eq_some_iff.mp (sound.asked earlier member)).1
  unheard verdict known request member := by
    rcases List.mem_append.mp member with earlier | new
    · exact sound.unheard verdict known request earlier
    · obtain rfl := List.mem_singleton.mp new
      exact (List.getElem?_eq_some_iff.mp (sound.heard verdict known)).1
  heard verdict known := getElem?_concat_some (sound.heard verdict known)
  answered := sound.answered
  agreed := Bool.false_ne_true.elim
  bound := sound.bound

theorem Sound.lose (sound : Sound d) {request : Nat × Content} {wire : List (Nat × Content)}
    (next : d.wire = request :: wire) : Sound { d with wire } where
  asked request member := sound.asked request (next ▸ List.mem_cons_of_mem _ member)
  ordered := (List.pairwise_cons.mp (next ▸ sound.ordered)).2
  unheard verdict known request member :=
    sound.unheard verdict known request (next ▸ List.mem_cons_of_mem _ member)
  heard := sound.heard
  answered := sound.answered
  agreed := sound.agreed
  bound := sound.bound

/-- A request that is heard comes after all that were heard before, so nothing is agreed upon. -/
theorem Sound.hear (sound : Sound d) {request : Nat × Content} {wire : List (Nat × Content)}
    (accepted : Bool) (next : d.wire = request :: wire) :
    Sound { d with
      wire
      heard := some { serial := request.1, content := request.2, accepted }
      bound := false } where
  asked := (sound.lose next).asked
  ordered := (sound.lose next).ordered
  unheard := by
    rintro verdict ⟨⟩ later member
    exact (List.pairwise_cons.mp (next ▸ sound.ordered)).1 later member
  heard := by
    rintro verdict ⟨⟩
    exact sound.asked request (next ▸ List.mem_cons_self)
  answered serial member := by
    obtain ⟨earlier, known, upTo, -⟩ := sound.answered serial member
    have new := sound.unheard earlier known request (next ▸ List.mem_cons_self)
    exact ⟨_, rfl, by dsimp only; omega, fun same => by dsimp only at same; omega⟩
  agreed holds := by
    obtain ⟨earlier, known, -, last⟩ := sound.agreed holds
    have member : request ∈ d.wire := next ▸ List.mem_cons_self
    have new := sound.unheard earlier known request member
    have old := last _ _ (sound.asked request member)
    omega
  bound := Bool.false_ne_true.elim

theorem Sound.answer (sound : Sound d) {verdict : Verdict Content}
    (known : d.heard = some verdict) (accepted : verdict.accepted = true) :
    Sound { d with answers := d.answers ++ [verdict.serial] } where
  asked := sound.asked
  ordered := sound.ordered
  unheard := sound.unheard
  heard := sound.heard
  answered serial member := by
    rcases List.mem_append.mp member with earlier | new
    · exact sound.answered serial earlier
    · obtain rfl := List.mem_singleton.mp new
      exact ⟨verdict, known, Nat.le_refl _, fun _ => accepted⟩
  agreed := sound.agreed
  bound := sound.bound

theorem Sound.drop (sound : Sound d) {serial : Nat} {answers : List Nat}
    (next : d.answers = serial :: answers) : Sound { d with answers } where
  asked := sound.asked
  ordered := sound.ordered
  unheard := sound.unheard
  heard := sound.heard
  answered serial member := sound.answered serial (next ▸ List.mem_cons_of_mem _ member)
  agreed := sound.agreed
  bound := sound.bound

/-- What answers the number given last is the last verdict, and it was to accept. -/
theorem Sound.agree (sound : Sound d) {serial : Nat} {answers : List Nat}
    (next : d.answers = serial :: answers) (newest : serial + 1 = d.numbered.length) :
    Sound { d with answers, agreed := true } where
  asked := sound.asked
  ordered := sound.ordered
  unheard := sound.unheard
  heard := sound.heard
  answered := (sound.drop next).answered
  agreed _ := by
    obtain ⟨verdict, known, upTo, accepted⟩ :=
      sound.answered serial (next ▸ List.mem_cons_self)
    have within := (List.getElem?_eq_some_iff.mp (sound.heard verdict known)).1
    refine ⟨verdict, known, accepted (by omega), fun later content asked => ?_⟩
    have below := (List.getElem?_eq_some_iff.mp asked).1
    dsimp only at below
    omega
  bound := sound.bound

theorem Sound.step (sound : Sound d) (step : Step d d') : Sound d' := by
  cases step with
  | number => exact sound.number
  | request content => exact sound.request content
  | lose next => exact sound.lose next
  | hear accepted next => exact sound.hear accepted next
  | answer known accepted => exact sound.answer known accepted
  | drop next => exact sound.drop next
  | agree next newest => exact sound.agree next newest
  | withdraw => exact { sound with agreed := Bool.false_ne_true.elim }
  | bind known accepted => exact { sound with bound := fun _ => ⟨_, known, accepted⟩ }
  | release => exact { sound with bound := Bool.false_ne_true.elim }

theorem Sound.steps (sound : Sound d) (steps : Steps d d') : Sound d' := by
  induction steps with
  | refl => exact sound
  | tail _ step ih => exact ih.step step

/-- Nothing was numbered yet. -/
def start : Dialogue Content where
  numbered := []
  wire := []
  heard := none
  answers := []
  agreed := false
  bound := false

theorem sound_start : Sound (start : Dialogue Content) where
  asked := by simp [start]
  ordered := List.Pairwise.nil
  unheard := by simp [start]
  heard := by simp [start]
  answered := by simp [start]
  agreed := Bool.false_ne_true.elim
  bound := Bool.false_ne_true.elim

/-- Once the requester takes its last request for accepted, that request is what the responder
heard last, and it was accepted. -/
theorem Sound.agreement (sound : Sound d) (agreed : d.agreed = true) :
    ∃ verdict, d.heard = some verdict ∧ verdict.accepted = true ∧
      lastRequest d.numbered = some verdict.content := by
  obtain ⟨verdict, known, accepted, last⟩ := sound.agreed agreed
  exact ⟨verdict, known, accepted, lastRequest_of_isLast (sound.heard verdict known) last⟩

end Soundness

section Parties

/-- The requester sends, and may take its agreement back. -/
theorem steps_send (d : Dialogue Content) (items : List (Option Content)) {agreed : Bool}
    (keeps : agreed = true → d.agreed = true ∧ ∀ item ∈ items, item = none) :
    Steps d { d with
      numbered := d.numbered ++ items
      wire := d.wire ++ requestsFrom d.numbered.length items
      agreed } := by
  induction items generalizing d with
  | nil =>
      simp only [requestsFrom, List.append_nil]
      cases agreed with
      | false => exact .single (.withdraw d)
      | true =>
          have same : d = { d with agreed := true } := by
            rw [← (keeps rfl).1]
          rw [← same]
  | cons item items ih =>
      cases item with
      | none =>
          refine .head (.number d) ?_
          have rest := ih { d with numbered := d.numbered ++ [none] } fun holds =>
            ⟨(keeps holds).1, fun item member => (keeps holds).2 item (List.mem_cons_of_mem _ member)⟩
          simpa [requestsFrom] using rest
      | some content =>
          refine .head (.request d content) ?_
          have rest := ih { d with
            numbered := d.numbered ++ [some content]
            wire := d.wire ++ [(d.numbered.length, content)]
            agreed := false } fun holds =>
              nomatch (keeps holds).2 (some content) List.mem_cons_self
          simpa [requestsFrom] using rest

/-- The responder answers its last verdict any number of times. -/
theorem steps_answer (d : Dialogue Content) {verdict : Verdict Content} (serials : List Nat)
    (known : d.heard = some verdict) (own : ∀ serial ∈ serials, serial = verdict.serial)
    (accepted : serials ≠ [] → verdict.accepted = true) :
    Steps d { d with answers := d.answers ++ serials } := by
  induction serials generalizing d with
  | nil => simp only [List.append_nil]; exact .refl
  | cons serial serials ih =>
      obtain rfl := own serial List.mem_cons_self
      have step : Step d { d with answers := d.answers ++ [verdict.serial] } :=
        .answer known (accepted (List.cons_ne_nil _ _))
      have rest := ih { d with answers := d.answers ++ [verdict.serial] } known
        (fun other member => own other (List.mem_cons_of_mem _ member))
        fun _ => accepted (List.cons_ne_nil _ _)
      refine .head step ?_
      simpa using rest

end Parties

end Mpd.Agreement
