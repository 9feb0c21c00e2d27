import Mathlib.Logic.Function.Basic
import VllmRoute.Network.TcpConnection

/-!
# The poller

`network::Poller`: the map from descriptors to channels, the index that each
channel remembers, and the descriptors that the kernel watches. An `assert`
that fails and an `epoll_ctl` whose failure is fatal give `none`.
-/
namespace VllmRoute.Network

/-- `index_`, how a channel stands with its poller. -/
inductive Index where
  | kNew
  | kAdded
  | kDeleted
  deriving DecidableEq

/-- The `epoll_event` of a watched descriptor. `ptr` names the channel. -/
structure EpollEvent where
  events : BitVec 32
  ptr : Nat
  deriving DecidableEq

inductive EpollOp where
  | ctlAdd
  | ctlMod
  | ctlDel
  deriving DecidableEq

/-- What a poller reads of a channel. -/
structure Watched where
  fd : Int
  index : Index
  channel : Channel

def Channel.isNoneEvent (c : Channel) : Bool := c.events == noneEvent

/-- `epoll` is the kernel's side. -/
structure Poller where
  channels : Int → Option Nat := fun _ => none
  epoll : Int → Option EpollEvent := fun _ => none

/-- A descriptor is added once, and changed or deleted only while it is there. -/
def epollCtl (epoll : Int → Option EpollEvent) (op : EpollOp) (fd : Int) (event : EpollEvent) :
    Option (Int → Option EpollEvent) :=
  match op, epoll fd with
  | .ctlAdd, none | .ctlMod, some _ => some (Function.update epoll fd (some event))
  | .ctlDel, some _ => some (Function.update epoll fd none)
  | _, _ => none

namespace Poller

def update (p : Poller) (op : EpollOp) (ptr : Nat) (w : Watched) : Option Poller :=
  match epollCtl p.epoll op w.fd ⟨w.channel.events, ptr⟩ with
  | some epoll => some { p with epoll := epoll }
  -- a failed deletion is only logged
  | none => if op = .ctlDel then some p else none

/-- The new index, and the poller. -/
def updateChannel (p : Poller) (ptr : Nat) (w : Watched) : Option (Index × Poller) :=
  match w.index with
  | .kNew =>
    if p.channels w.fd = none then
      let p := { p with channels := Function.update p.channels w.fd (some ptr) }
      (p.update .ctlAdd ptr w).map fun p => (.kAdded, p)
    else none
  | .kDeleted =>
    if p.channels w.fd = some ptr then (p.update .ctlAdd ptr w).map fun p => (.kAdded, p)
    else none
  | .kAdded =>
    if p.channels w.fd = some ptr then
      if w.channel.isNoneEvent then (p.update .ctlDel ptr w).map fun p => (.kDeleted, p)
      else (p.update .ctlMod ptr w).map fun p => (.kAdded, p)
    else none

def removeChannel (p : Poller) (ptr : Nat) (w : Watched) : Option (Index × Poller) :=
  if p.channels w.fd = some ptr ∧ w.channel.isNoneEvent ∧ w.index ≠ .kNew then
    let p := { p with channels := Function.update p.channels w.fd none }
    if w.index = .kAdded then (p.update .ctlDel ptr w).map fun p => (.kNew, p)
    else some (.kNew, p)
  else none

/-- The map and the kernel agree with what the channels remember. -/
structure Tracks (p : Poller) (watched : Nat → Option Watched) : Prop where
  channels : ∀ fd n, p.channels fd = some n ↔
    ∃ w, watched n = some w ∧ w.fd = fd ∧ w.index ≠ .kNew
  epoll : ∀ fd events n, p.epoll fd = some ⟨events, n⟩ ↔
    ∃ w, watched n = some w ∧ w.fd = fd ∧ w.index = .kAdded ∧ w.channel.events = events

namespace Tracks

variable {p : Poller} {watched : Nat → Option Watched} {n : Nat} {w : Watched}

theorem registered (tracks : p.Tracks watched) (here : watched n = some w)
    (known : w.index ≠ .kNew) : p.channels w.fd = some n :=
  (tracks.channels w.fd n).mpr ⟨w, here, rfl, known⟩

/-- Only a registered channel can be the one that the kernel has under its descriptor. -/
theorem epoll_none (tracks : p.Tracks watched) (here : watched n = some w)
    (known : w.index = .kDeleted) : p.epoll w.fd = none := by
  cases found : p.epoll w.fd with
  | none => rfl
  | some event =>
    obtain ⟨w', there, fd, added, _⟩ := (tracks.epoll w.fd event.events event.ptr).mp found
    have mine := tracks.registered here (by simp [known])
    have its := tracks.registered there (by simp [added])
    rw [fd, mine] at its
    obtain rfl := Option.some.inj its
    cases here.symm.trans there
    simp [known] at added

/-- What is not in the map is not in the kernel. -/
theorem epoll_none_of_free (tracks : p.Tracks watched) {fd : Int} (free : p.channels fd = none) :
    p.epoll fd = none := by
  cases found : p.epoll fd with
  | none => rfl
  | some event =>
    obtain ⟨w', there, same, added, _⟩ := (tracks.epoll fd event.events event.ptr).mp found
    have its := tracks.registered there (by simp [added])
    rw [same, free] at its
    cases its

/-- Two registered channels have different descriptors. -/
theorem injective (tracks : p.Tracks watched) {m : Nat} {v : Watched} (here : watched n = some w)
    (there : watched m = some v) (known : w.index ≠ .kNew) (known' : v.index ≠ .kNew)
    (same : w.fd = v.fd) : n = m := by
  have mine := tracks.registered here known
  rw [same, tracks.registered there known'] at mine
  exact (Option.some.inj mine).symm

/-- One channel changes: its entries in the map and in the kernel follow from its new index,
and no other channel is under its descriptor. -/
theorem set (tracks : p.Tracks watched) (here : watched n = some w)
    (alone : ∀ m v, watched m = some v → v.index ≠ .kNew → v.fd = w.fd → m = n) {w' : Watched}
    (fd : w'.fd = w.fd) {p' : Poller}
    (channels : p'.channels =
      Function.update p.channels w.fd (if w'.index = .kNew then none else some n))
    (epoll : p'.epoll = Function.update p.epoll w.fd
      (if w'.index = .kAdded then some ⟨w'.channel.events, n⟩ else none)) :
    p'.Tracks (Function.update watched n (some w')) := by
  constructor
  case channels =>
    intro fd' m
    rw [channels]
    by_cases mine : m = n
    · subst mine
      by_cases same : fd' = w.fd
      · subst same
        simp [fd]
      · have other := tracks.channels fd' m
        simp_all [Ne.symm same]
    · by_cases same : fd' = w.fd
      · subst same
        have absent : ¬∃ v, watched m = some v ∧ v.fd = w.fd ∧ v.index ≠ .kNew := by
          rintro ⟨v, there, its, known⟩
          exact mine (alone m v there known its)
        simp [Function.update_of_ne mine, absent, Ne.symm mine]
      · rw [Function.update_of_ne same, Function.update_of_ne mine, tracks.channels]
  case epoll =>
    intro fd' events m
    rw [epoll]
    by_cases mine : m = n
    · subst mine
      by_cases same : fd' = w.fd
      · subst same
        simp [fd]
      · have other := tracks.epoll fd' events m
        simp_all [Ne.symm same]
    · by_cases same : fd' = w.fd
      · subst same
        have absent : ¬∃ v, watched m = some v ∧ v.fd = w.fd ∧ v.index = .kAdded ∧
            v.channel.events = events := by
          rintro ⟨v, there, its, known, _⟩
          exact mine (alone m v there (by simp [known]) its)
        simp [Function.update_of_ne mine, absent, Ne.symm mine]
      · rw [Function.update_of_ne same, Function.update_of_ne mine, tracks.epoll]

/-- A new channel is unknown to the poller. -/
theorem insert (tracks : p.Tracks watched) (absent : watched n = none) (fresh : w.index = .kNew) :
    p.Tracks (Function.update watched n (some w)) := by
  constructor
  case channels =>
    intro fd m
    rw [tracks.channels]
    by_cases mine : m = n
    · subst mine
      simp [absent, fresh]
    · rw [Function.update_of_ne mine]
  case epoll =>
    intro fd events m
    rw [tracks.epoll]
    by_cases mine : m = n
    · subst mine
      simp [absent, fresh]
    · rw [Function.update_of_ne mine]

/-- No `assert` of `updateChannel` fails and `epoll_ctl` succeeds, provided that a new channel
does not come with the descriptor of a registered one. -/
theorem updateChannel (tracks : p.Tracks watched) (here : watched n = some w) (channel : Channel)
    (free : w.index = .kNew → ∀ m v, watched m = some v → v.index ≠ .kNew → v.fd ≠ w.fd) :
    ∃ p', p.updateChannel n { w with channel := channel } =
        some (if w.index = .kAdded ∧ channel.isNoneEvent then .kDeleted else .kAdded, p') ∧
      p'.Tracks (Function.update watched n (some { w with
        index := if w.index = .kAdded ∧ channel.isNoneEvent then .kDeleted else .kAdded
        channel := channel })) := by
  have alone : ∀ m v, watched m = some v → v.index ≠ .kNew → v.fd = w.fd → m = n := by
    intro m v there known same
    by_cases fresh : w.index = .kNew
    · exact absurd same (free fresh m v there known)
    · exact tracks.injective there here known fresh same
  cases index : w.index with
  | kNew =>
    have unused : p.channels w.fd = none := by
      cases found : p.channels w.fd with
      | none => rfl
      | some m =>
        obtain ⟨v, there, same, known⟩ := (tracks.channels w.fd m).mp found
        exact absurd same (free index m v there known)
    refine ⟨⟨Function.update p.channels w.fd (some n),
      Function.update p.epoll w.fd (some ⟨channel.events, n⟩)⟩, ?_, ?_⟩
    · simp [Poller.updateChannel, unused, Poller.update, epollCtl,
        tracks.epoll_none_of_free unused]
    · apply tracks.set here alone <;> simp
  | kDeleted =>
    have known := tracks.registered here (by simp [index])
    refine ⟨⟨p.channels, Function.update p.epoll w.fd (some ⟨channel.events, n⟩)⟩, ?_, ?_⟩
    · simp [Poller.updateChannel, known, Poller.update, epollCtl,
        tracks.epoll_none here index]
    · apply tracks.set here alone <;> simp [known]
  | kAdded =>
    have known := tracks.registered here (by simp [index])
    have watching := (tracks.epoll w.fd _ n).mpr ⟨w, here, rfl, index, rfl⟩
    cases silent : channel.isNoneEvent with
    | true =>
      refine ⟨⟨p.channels, Function.update p.epoll w.fd none⟩, ?_, ?_⟩
      · simp [Poller.updateChannel, known, silent, Poller.update, epollCtl, watching]
      · apply tracks.set here alone <;> simp [known]
    | false =>
      refine ⟨⟨p.channels, Function.update p.epoll w.fd (some ⟨channel.events, n⟩)⟩, ?_, ?_⟩
      · simp [Poller.updateChannel, known, silent, Poller.update, epollCtl, watching]
      · apply tracks.set here alone <;> simp [known]

/-- A registered channel without events is removed, from the kernel as well if it is there. -/
theorem removeChannel (tracks : p.Tracks watched) (here : watched n = some w)
    (known : w.index ≠ .kNew) (silent : w.channel.isNoneEvent = true) :
    ∃ p', p.removeChannel n w = some (.kNew, p') ∧
      p'.Tracks (Function.update watched n (some { w with index := .kNew })) := by
  have alone : ∀ m v, watched m = some v → v.index ≠ .kNew → v.fd = w.fd → m = n :=
    fun m v there known' => tracks.injective there here known' known
  have registered := tracks.registered here known
  cases index : w.index with
  | kNew => exact absurd index known
  | kDeleted =>
    refine ⟨⟨Function.update p.channels w.fd none, p.epoll⟩, ?_, ?_⟩
    · simp [Poller.removeChannel, registered, silent, index]
    · apply tracks.set here alone <;> simp [tracks.epoll_none here index]
  | kAdded =>
    have watching := (tracks.epoll w.fd _ n).mpr ⟨w, here, rfl, index, rfl⟩
    refine ⟨⟨Function.update p.channels w.fd none,
      Function.update p.epoll w.fd none⟩, ?_, ?_⟩
    · simp [Poller.removeChannel, registered, silent, index, Poller.update, epollCtl, watching]
    · apply tracks.set here alone <;> simp

end Tracks

end Poller

end VllmRoute.Network
