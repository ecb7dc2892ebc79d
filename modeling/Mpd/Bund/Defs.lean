import Mathlib.Algebra.GroupWithZero.Nat
import Mathlib.Data.Fintype.Card
import Mathlib.Logic.Function.Basic
import Mpd.Bytes
import Mpd.Transition

/-! The bundles and links of `bund.c` and `link.c` with the pointers between them:
who creates, attaches, joins, leaves and shuts down what. Objects live in two heaps and
are found through the arrays `gBundles` and `gLinks`, as in the source. -/

set_option autoImplicit false

namespace Mpd.Membership

/-- `struct discrim`, with the whole of its array. -/
structure DiscrimBuf where
  len : UInt8
  «class» : UInt8
  bytes : Bytes
  deriving DecidableEq, Repr

def mpDiscrimEqual (d1 d2 : DiscrimBuf) : Bool :=
  if d1.class ≠ d2.class ∧ d1.len ≠ d2.len then false
  else d1.bytes.take d1.len.toNat == d2.bytes.take d1.len.toNat

structure LinkRef where
  text : String
  index : Option Nat
  deriving DecidableEq, Repr

section
variable (n : Nat)

structure BundConf where
  linkst : Fin n → LinkRef
  bwmanage : Bool
  ondemand : Bool

/-- `struct bundle` with `n` for `NG_PPP_MAX_LINKS`. Pointers are heap addresses. -/
structure Bundle where
  name : String
  id : Nat
  tmpl : Bool
  stay : Bool
  dead : Bool
  links : Fin n → Option Nat
  n_links : UInt16
  n_up : UInt16
  peer_mrru : UInt16
  peer_discrim : DiscrimBuf
  conf : BundConf n
  «open» : Bool
  authname : String

/-- `struct linkst`, as far as its bundle goes. `network` says that the LCP is in
`PHASE_NETWORK`. -/
structure BundLink where
  name : String
  id : Nat
  tmpl : Bool
  stay : Bool
  joined_bund : Bool
  dead : Bool
  bund : Option Nat
  bundleIndex : Fin n
  network : Bool

/-- The two heaps, with the next address of each, and the globals. `aborted` is set
by a failed assertion and by a null pointer that is followed. -/
structure BundWorld where
  bunds : Nat → Option (Bundle n)
  links : Nat → Option (BundLink n)
  nextBund : Nat
  nextLink : Nat
  gBundles : List (Option Nat)
  gLinks : List (Option Nat)
  gShutdownInProgress : Bool
  aborted : Bool

end

section
variable {n : Nat}

/-- What `BundJoin` reads of the link and of the system: `action` is the name after
`bundle ` in the authentication's action, `matched` the answer of `LinkMatchAction`. -/
structure JoinFacts where
  peer_mrru : UInt16
  want_mrru : UInt16
  peer_discrim : DiscrimBuf
  authname : String
  action : Option String
  matched : Option String
  bundNgInit : Bool
  linkNgJoin : Bool

namespace BundWorld

def mapBund (w : BundWorld n) (p : Nat) (f : Bundle n → Bundle n) : BundWorld n :=
  { w with bunds := Function.update w.bunds p ((w.bunds p).map f) }

def mapLink (w : BundWorld n) (l : Nat) (f : BundLink n → BundLink n) : BundWorld n :=
  { w with links := Function.update w.links l ((w.links l).map f) }

end BundWorld

def freeSlot (slots : List (Option Nat)) : Nat :=
  slots.findIdx (· == none)

/-- `LengthenArray` where it is needed, then the store. -/
def storeSlot (slots : List (Option Nat)) (p : Nat) : List (Option Nat) :=
  if freeSlot slots < slots.length then slots.set (freeSlot slots) (some p)
  else slots ++ [some p]

def bundFind (w : BundWorld n) (name : String) : Option Nat :=
  (w.gBundles.find? fun slot => (slot.bind w.bunds).any (·.name == name)).join

def linkFind (w : BundWorld n) (name : LinkRef) : Option Nat :=
  match name.index.bind (w.gLinks[·]?) with
  | some slot => slot
  | none => (w.gLinks.find? fun slot => (slot.bind w.links).any (·.name == name.text)).join

/-- `BundInst`, with the name it is given or the one it makes up. -/
def bundInst (w : BundWorld n) (bt : Bundle n) (name : Option String) (tmpl stay ngInit : Bool) :
    Option Nat × BundWorld n :=
  let k := freeSlot w.gBundles
  let b := { bt with
    tmpl := tmpl, stay := stay, id := k, name := name.getD (bt.name ++ "-" ++ toString k) }
  if tmpl || ngInit then
    (some w.nextBund, { w with
      bunds := Function.update w.bunds w.nextBund (some b)
      nextBund := w.nextBund + 1
      gBundles := storeSlot w.gBundles w.nextBund })
  else (none, { w with gBundles := (storeSlot w.gBundles w.nextBund).set k none })

def linkInst (w : BundWorld n) (lt : BundLink n) (name : Option String) (tmpl stay : Bool) :
    Nat × BundWorld n :=
  let k := freeSlot w.gLinks
  let l := { lt with
    tmpl := tmpl, stay := stay, id := k, name := name.getD (lt.name ++ "-" ++ toString k) }
  (w.nextLink, { w with
    links := Function.update w.links w.nextLink (some l)
    nextLink := w.nextLink + 1
    gLinks := storeSlot w.gLinks w.nextLink })

def linkShutdown (w : BundWorld n) (l : Nat) : BundWorld n :=
  match w.links l with
  | none => w
  | some link =>
      let w := match link.bund with
        | none => w
        | some p =>
            (w.mapBund p fun b => { b with
              links := Function.update b.links link.bundleIndex none
              n_links := b.n_links - 1 }).mapLink l fun link => { link with bund := none }
      { w with gLinks := w.gLinks.set link.id none }.mapLink l
        fun link => { link with dead := true }

/-- One turn of the loop of `BundShutdown`. -/
def bundShutdownSlot (p : Nat) (w : BundWorld n) (k : Fin n) : BundWorld n :=
  match (w.bunds p).bind (·.links k) with
  | none => w
  | some l =>
      match w.links l with
      | none => w
      | some link =>
          if link.stay then
            (w.mapLink l fun link => { link with bund := none }).mapBund p
              fun b => { b with links := Function.update b.links k none }
          else linkShutdown w l

def bundShutdown (w : BundWorld n) (p : Nat) : BundWorld n :=
  match w.bunds p with
  | none => w
  | some b =>
      let w := (List.finRange n).foldl (bundShutdownSlot p) w
      { w with gBundles := w.gBundles.set b.id none }.mapBund p fun b => { b with dead := true }

/-- The search of `BundJoin` for a bundle of the same peer. -/
def bundJoinSame (w : BundWorld n) (facts : JoinFacts) : Option Nat :=
  if facts.peer_mrru = 0 then none
  else (w.gBundles.find? fun slot => (slot.bind w.bunds).any fun b =>
    !b.tmpl && b.peer_mrru != 0 && mpDiscrimEqual facts.peer_discrim b.peer_discrim &&
      facts.authname == b.authname).join

/-- The bundle that `BundJoin` finds or makes for a link without one. -/
def bundJoinFind (w : BundWorld n) (facts : JoinFacts) : Option Nat × BundWorld n :=
  match bundJoinSame w facts with
  | some p => (some p, w)
  | none =>
      match facts.action <|> facts.matched with
      | none => (none, w)
      | some bundt =>
          if bundt = "##DROP##" then (none, w)
          else match bundFind w bundt with
            | none => (none, w)
            | some p =>
                match w.bunds p with
                | none => (none, w)
                | some bt =>
                    if bt.tmpl then bundInst w bt none false false facts.bundNgInit
                    else (some p, w)

/-- The tests of `BundJoin` on a bundle that has links up. -/
def bundJoinRefuses (b : Bundle n) (facts : JoinFacts) : Bool :=
  (b.n_up > 0 && (b.peer_mrru == 0 || facts.peer_mrru == 0 || facts.want_mrru == 0)) ||
  (b.n_up > 0 && (!mpDiscrimEqual facts.peer_discrim b.peer_discrim ||
    facts.authname != b.authname))

/-- `b->links[k] = l` with the counter and the pointers back. -/
def bundAttach (w : BundWorld n) (p l : Nat) (k : Fin n) : BundWorld n :=
  (w.mapLink l fun link => { link with bund := some p, bundleIndex := k }).mapBund p
    fun b => { b with links := Function.update b.links k (some l), n_links := b.n_links + 1 }

/-- The first part of `BundJoin`: a link without a bundle gets one, if it may. -/
def bundJoinAttach (w : BundWorld n) (l : Nat) (facts : JoinFacts) : Bool × BundWorld n :=
  match bundJoinFind w facts with
  | (none, w) => (false, w)
  | (some p, w) =>
      match w.bunds p with
      | none => (false, w)
      | some b =>
          if bundJoinRefuses b facts then (false, w)
          else match (List.finRange n).find? (b.links · == none) with
            | none => (false, w)
            | some k => (true, bundAttach w p l k)

/-- The second part of `BundJoin`, for a link with a bundle. -/
def bundJoinUp (w : BundWorld n) (l p : Nat) (k : Fin n) (facts : JoinFacts) : BundWorld n :=
  let w := w.mapBund p fun b => { b with «open» := true }
  if facts.linkNgJoin then
    (w.mapLink l fun link => { link with joined_bund := true }).mapBund p fun b =>
      let b := { b with n_up := b.n_up + 1 }
      if b.n_up = 1 then
        { b with
          authname := facts.authname, peer_mrru := facts.peer_mrru
          peer_discrim := if facts.peer_mrru ≠ 0 then facts.peer_discrim else b.peer_discrim }
      else b
  else
    let w := (w.mapLink l fun link => { link with bund := none }).mapBund p
      fun b => { b with links := Function.update b.links k none }
    match w.bunds p with
    | none => w
    | some b => if b.stay then w else bundShutdown w p

/-- `BundJoin`, once the shutdown in progress is ruled out. -/
def bundJoin (w : BundWorld n) (l : Nat) (facts : JoinFacts) : BundWorld n :=
  match w.links l with
  | none => w
  | some link =>
      if w.gShutdownInProgress then w
      else
        let (goOn, w) := match link.bund with
          | some _ => (true, w)
          | none => bundJoinAttach w l facts
        if goOn then
          match w.links l with
          | none => w
          | some link =>
              match link.bund with
              | none => w
              | some p => bundJoinUp w l p link.bundleIndex facts
        else w

def bundLeave (w : BundWorld n) (l : Nat) : BundWorld n :=
  match w.links l with
  | none => w
  | some link =>
      match link.bund with
      | none => { w with aborted := true }
      | some p =>
          match w.bunds p with
          | none => { w with aborted := true }
          | some b =>
              if b.n_up = 0 then { w with aborted := true }
              else
                let left := { b with
                  n_up := b.n_up - 1
                  links := Function.update b.links link.bundleIndex none
                  n_links := b.n_links - 1 }
                let w := (w.mapLink l fun link =>
                  { link with joined_bund := false, bund := none }).mapBund p fun _ => left
                if left.n_up ≠ 0 then w
                else
                  let w := w.mapBund p fun b => { b with authname := "" }
                  if left.open && left.conf.bwmanage && !left.conf.ondemand &&
                      !w.gShutdownInProgress &&
                      (left.n_links != 0 || (List.finRange n).head?.any
                        fun k => (left.conf.linkst k).text != "") then w
                  else
                    let w := w.mapBund p fun b => { b with «open» := false }
                    if left.stay then w else bundShutdown w p

/-- The link that `BundCreateOpenLink` attaches, where `busy` is what `PhysIsBusy`
answers. -/
def bundCreateLink (w : BundWorld n) (name : LinkRef) (busy : Bool) :
    Option Nat × BundWorld n :=
  match linkFind w name with
  | none => (none, w)
  | some lt =>
      match w.links lt with
      | none => (none, w)
      | some link =>
          if busy then (none, w)
          else if link.tmpl then
            match linkInst w link none false false with
            | (l, w) => (some l, w)
          else (some lt, w)

def bundCreateOpenLink (w : BundWorld n) (p : Nat) (k : Fin n) (busy : Bool) : BundWorld n :=
  match w.bunds p with
  | none => w
  | some b =>
      if (b.links k).isSome then w
      else if (b.conf.linkst k).text = "" then w
      else match bundCreateLink w (b.conf.linkst k) busy with
        | (none, w) => w
        | (some l, w) => bundAttach w p l k

def bundNew (name : String) (id : Nat) (tmpl stay : Bool) (conf : BundConf n) : Bundle n where
  name := name
  id := id
  tmpl := tmpl
  stay := stay
  dead := false
  links := fun _ => none
  n_links := 0
  n_up := 0
  peer_mrru := 0
  peer_discrim := ⟨0, 0, []⟩
  conf := conf
  «open» := false
  authname := ""

def linkNew [NeZero n] (name : String) (id : Nat) (tmpl stay : Bool) : BundLink n where
  name := name
  id := id
  tmpl := tmpl
  stay := stay
  joined_bund := false
  dead := false
  bund := none
  bundleIndex := 0
  network := false

def bundCreate (w : BundWorld n) (name : String) (tmpl stay : Bool) (bt : Option String)
    (conf : BundConf n) (ngInit : Bool) : BundWorld n :=
  if (bundFind w name).isSome then w
  else match bt with
    | some template =>
        match (bundFind w template).bind w.bunds with
        | none => w
        | some bt => if bt.tmpl then (bundInst w bt (some name) tmpl stay ngInit).2 else w
    | none => (bundInst w (bundNew name 0 tmpl stay conf) (some name) tmpl stay ngInit).2

def linkCreate [NeZero n] (w : BundWorld n) (name : LinkRef) (tmpl stay : Bool)
    (lt : Option LinkRef) : BundWorld n :=
  if (linkFind w name).isSome then w
  else match lt with
    | some template =>
        match (linkFind w template).bind w.links with
        | none => w
        | some lt => if lt.tmpl then (linkInst w lt (some name.text) tmpl stay).2 else w
    | none => (linkInst w (linkNew name.text 0 tmpl stay) (some name.text) tmpl stay).2

/-- `BundDestroy`. The message of `BundClose` closes the links later. -/
def bundDestroy (w : BundWorld n) (p : Nat) : BundWorld n :=
  match w.bunds p with
  | none => w
  | some b =>
      if b.tmpl then bundShutdown (w.mapBund p fun b => { b with tmpl := false, stay := false }) p
      else
        let w := w.mapBund p fun b => { b with stay := false }
        if b.n_up ≠ 0 then w else bundShutdown w p

/-- `LinkDestroy`. What it asks the LCP or the device to do comes later. -/
def linkDestroy (w : BundWorld n) (l : Nat) : BundWorld n :=
  match w.links l with
  | none => w
  | some link =>
      if link.tmpl then linkShutdown (w.mapLink l fun link =>
        { link with tmpl := false, stay := false }) l
      else w.mapLink l fun link => { link with stay := false }

/-- What happens to the bundles and links. -/
inductive BundEvent (n : Nat) where
  | bundCreate (name : String) (tmpl stay : Bool) (bt : Option String) (conf : BundConf n)
      (ngInit : Bool)
  | linkCreate (name : LinkRef) (tmpl stay : Bool) (lt : Option LinkRef)
  | linkInst (i : Nat)
  | bundConf (p : Nat) (conf : BundConf n)
  | setOpen (p : Nat) («open» : Bool)
  | createOpen (p : Nat) (k : Fin n) (busy : Bool)
  | enterNetwork (l : Nat) (facts : JoinFacts)
  | leaveNetwork (l : Nat)
  | linkDestroy (l : Nat)
  | linkShutdown (l : Nat)
  | bundDestroy (p : Nat)
  | shutdownInProgress

/-- One event. The two phase events are `LcpNewPhase` as far as the bundle goes; the LCP
of a template does not run, a template is not opened, and a bundle that is gone gets no
message or command. -/
def bundEvent [NeZero n] (w : BundWorld n) : BundEvent n → BundWorld n
  | .bundCreate name tmpl stay bt conf ngInit => bundCreate w name tmpl stay bt conf ngInit
  | .linkCreate name tmpl stay lt => linkCreate w name tmpl stay lt
  | .linkInst i =>
      match w.gLinks[i]?.join.bind w.links with
      | none => w
      | some link => if link.tmpl then (linkInst w link none false false).2 else w
  | .bundConf p conf => w.mapBund p fun b => { b with conf := conf }
  | .setOpen p state => w.mapBund p fun b => { b with «open» := state }
  | .createOpen p k busy =>
      if (w.bunds p).any fun b => b.tmpl || b.dead then w else bundCreateOpenLink w p k busy
  | .enterNetwork l facts =>
      match w.links l with
      | none => w
      | some link =>
          if link.tmpl then w
          else if link.network then { w with aborted := true }
          else bundJoin (w.mapLink l fun link => { link with network := true }) l facts
  | .leaveNetwork l =>
      match w.links l with
      | none => w
      | some link =>
          if link.network then
            let v := w.mapLink l fun link => { link with network := false }
            if link.joined_bund then bundLeave v l else v
          else w
  | .linkDestroy l => linkDestroy w l
  | .linkShutdown l => linkShutdown w l
  | .bundDestroy p => if (w.bunds p).any (·.dead) then w else bundDestroy w p
  | .shutdownInProgress => { w with gShutdownInProgress := true }

/-- One event of a process that is still there. One that aborts does nothing more, and
what it was doing is lost with it. -/
def bundStep [NeZero n] (w : BundWorld n) (event : BundEvent n) : BundWorld n :=
  if w.aborted then w
  else
    let v := bundEvent w event
    if v.aborted then { w with aborted := true } else v

/-- Before the first command. -/
def bundStart (n : Nat) : BundWorld n where
  bunds := fun _ => none
  links := fun _ => none
  nextBund := 0
  nextLink := 0
  gBundles := []
  gLinks := []
  gShutdownInProgress := false
  aborted := false

end

end Mpd.Membership
