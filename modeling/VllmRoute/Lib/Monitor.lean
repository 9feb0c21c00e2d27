import VllmRoute.Lib.Replace
import VllmRoute.Lib.Run

/-!
# Monitors

A mutex with a condition variable. Threads take items out of a shared state, and
wait when there are none: a thread that found nothing keeps the mutex until it
sleeps. An item is put in under the mutex, and a signal follows some time later,
without the mutex. A monitor can be closed by a flag, which is set and signalled
without the mutex; a thread that finds nothing in a closed monitor leaves it.

`Stock` says how the two operations change the number of items. It is enough for
`Conserving`: no item is left behind a sleeping thread.
-/
namespace VllmRoute.Lib

/-- Where a thread is. -/
inductive Phase where
  | away
  /-- about to lock the mutex and to look for an item -/
  | entering
  /-- with the mutex, having found nothing -/
  | parking
  | asleep
  | gone
  deriving DecidableEq

structure Monitor (σ : Type) where
  state : σ
  threads : List Phase
  /-- signals that are still to follow an item -/
  signals : Nat := 0
  closed : Bool := false

namespace Monitor

inductive Event (ι τ : Type) where
  | put (item : ι)
  /-- a signal wakes one of the threads that sleep, if there are any -/
  | signal (woken : Option Nat)
  | spurious (i : Nat)
  | enter (i : Nat) (how : τ)
  | park (i : Nat)
  | comeBack (i : Nat)
  | close
  | signalAll

/-- Nothing is put in any more, no thread wakes without a signal, and the signals are those
that are still to follow an item. -/
def Event.Quiet {ι τ : Type} : Event ι τ → Prop
  | .put _ => False
  | .spurious _ => False
  | .signalAll => False
  | _ => True

variable {σ ι τ : Type}

def locked (m : Monitor σ) : Bool := m.threads.contains .parking

/-- A thread goes on from one phase to another. -/
def move (m : Monitor σ) (i : Nat) (before after : Phase) : Option (Monitor σ) :=
  if m.threads[i]? = some before then some { m with threads := m.threads.set i after } else none

/-- `put` can refuse an item, and `take` finds none. -/
def step (put : ι → σ → Option σ) (take : τ → σ → Option σ) (m : Monitor σ) :
    Event ι τ → Option (Monitor σ)
  | .put item =>
    if m.locked then none
    else match put item m.state with
      | some state => some { m with state := state, signals := m.signals + 1 }
      | none => some m
  | .signal woken =>
    if m.signals = 0 then none
    else match woken with
      | some i => { m with signals := m.signals - 1 }.move i .asleep .entering
      | none =>
        if .asleep ∈ m.threads then none else some { m with signals := m.signals - 1 }
  | .spurious i => m.move i .asleep .entering
  | .enter i how =>
    if m.locked then none
    else match take how m.state with
      | some state => { m with state := state }.move i .entering .away
      | none => m.move i .entering (if m.closed then .gone else .parking)
  | .park i => m.move i .parking .asleep
  | .comeBack i => m.move i .away .entering
  | .close => some { m with closed := true }
  | .signalAll =>
    if m.closed then
      some { m with threads := m.threads.map fun p => if p = .asleep then .entering else p }
    else none

theorem move_some {m m' : Monitor σ} {i : Nat} {before after : Phase}
    (moved : m.move i before after = some m') :
    m.threads[i]? = some before ∧ m' = { m with threads := m.threads.set i after } := by
  unfold move at moved
  split at moved
  · rename_i found
    cases moved
    exact ⟨found, rfl⟩
  · cases moved

theorem not_parking {m : Monitor σ} (free : ¬ m.locked = true) : .parking ∉ m.threads := by
  simpa [locked] using free

/-- One thread changes its phase, and the others are counted as before. -/
theorem count_set {threads : List Phase} {i : Nat} {before : Phase} (after p : Phase)
    (found : threads[i]? = some before) :
    (threads.set i after).count p + (if before = p then 1 else 0) =
      threads.count p + (if after = p then 1 else 0) := by
  obtain ⟨bound, rfl⟩ := List.getElem?_eq_some_iff.mp found
  rw [List.count_set bound]
  by_cases own : threads[i] = p
  · have some_ : 0 < threads.count p := List.count_pos_iff.mpr (own ▸ List.getElem_mem bound)
    simp only [own, beq_self_eq_true, if_true, beq_iff_eq]
    omega
  · simp [own]

theorem mem_set_of_ne {threads : List Phase} {i : Nat} {after p : Phase} (other : after ≠ p)
    (member : p ∈ threads.set i after) : p ∈ threads := by
  rcases List.mem_or_eq_of_mem_set member with old | rfl
  · exact old
  · exact absurd rfl other

/-! ### No item waits beside a sleeping thread -/

/-- The operations put in and take out one item at a time, in states of this kind. -/
structure Stock (put : ι → σ → Option σ) (take : τ → σ → Option σ) (good : σ → Prop)
    (size : σ → Nat) : Prop where
  put_size : ∀ item s s', good s → put item s = some s' → good s' ∧ size s' = size s + 1
  take_size : ∀ how s s', good s → take how s = some s' → good s' ∧ size s = size s' + 1
  take_none : ∀ how s, take how s = none → size s = 0

/-- While a thread sleeps, each item has a thread that is on its way to it, or a signal. -/
structure Conserving (good : σ → Prop) (size : σ → Nat) (m : Monitor σ) : Prop where
  good : good m.state
  parked : .parking ∈ m.threads → size m.state = 0
  served : .asleep ∈ m.threads → size m.state ≤ m.threads.count .entering + m.signals

section

variable {put : ι → σ → Option σ} {take : τ → σ → Option σ} {good : σ → Prop} {size : σ → Nat}
variable {m m' : Monitor σ}

theorem Conserving.added (conserving : m.Conserving good size)
    (stock : Stock put take good size) {item : ι}
    (taken : m.step put take (.put item) = some m') : m'.Conserving good size := by
  simp only [step] at taken
  split at taken
  · cases taken
  · rename_i free
    split at taken
    · rename_i state added
      cases taken
      obtain ⟨good', more⟩ := stock.put_size item m.state state conserving.good added
      constructor
      case good => exact good'
      case parked => exact fun member => absurd member (not_parking free)
      case served =>
        intro member
        have before := conserving.served member
        change size state ≤ m.threads.count .entering + (m.signals + 1)
        omega
    · cases taken
      exact conserving

/-- A sleeping thread is woken: by a signal, which is then used up, or by nothing. -/
theorem Conserving.wake (conserving : m.Conserving good size) {i signals : Nat}
    (asleep : m.threads[i]? = some .asleep) (enough : m.signals ≤ signals + 1) :
    Conserving good size
      { m with threads := m.threads.set i .entering, signals := signals } := by
  have counted := count_set .entering .entering asleep
  constructor
  case good => exact conserving.good
  case parked => exact fun member => conserving.parked (mem_set_of_ne (by decide) member)
  case served =>
    intro member
    have before := conserving.served (mem_set_of_ne (by decide) member)
    simp only [reduceCtorEq, if_false, if_true] at counted
    change size m.state ≤ (m.threads.set i .entering).count .entering + signals
    omega

theorem Conserving.entered (conserving : m.Conserving good size)
    (stock : Stock put take good size) {i : Nat} {how : τ}
    (taken : m.step put take (.enter i how) = some m') : m'.Conserving good size := by
  simp only [step] at taken
  split at taken
  · cases taken
  · rename_i free
    split at taken
    · rename_i state found
      obtain ⟨entering, rfl⟩ := move_some taken
      obtain ⟨good', less⟩ := stock.take_size how m.state state conserving.good found
      have counted := count_set .away .entering entering
      constructor
      case good => exact good'
      case parked =>
        exact fun member => absurd (mem_set_of_ne (by decide) member) (not_parking free)
      case served =>
        intro member
        have before := conserving.served (mem_set_of_ne (by decide) member)
        simp only [reduceCtorEq, if_false, if_true] at counted
        change size state ≤ (m.threads.set i .away).count .entering + m.signals
        omega
    · rename_i nothing
      obtain ⟨_, rfl⟩ := move_some taken
      have empty := stock.take_none how m.state nothing
      constructor
      case good => exact conserving.good
      case parked => exact fun _ => empty
      case served =>
        intro _
        change size m.state ≤ _
        omega

theorem Conserving.step (conserving : m.Conserving good size) (stock : Stock put take good size)
    {e : Event ι τ} (taken : m.step put take e = some m') : m'.Conserving good size := by
  cases e with
  | put item => exact conserving.added stock taken
  | enter i how => exact conserving.entered stock taken
  | signal woken =>
    simp only [Monitor.step] at taken
    split at taken
    · cases taken
    · cases woken with
      | some i =>
        obtain ⟨asleep, rfl⟩ := move_some taken
        exact conserving.wake asleep (show m.signals ≤ m.signals - 1 + 1 by omega)
      | none =>
        dsimp only at taken
        split at taken
        · cases taken
        · rename_i nobody
          cases taken
          exact ⟨conserving.good, conserving.parked, fun member => absurd member nobody⟩
  | spurious i =>
    obtain ⟨asleep, rfl⟩ := move_some taken
    exact conserving.wake asleep (by omega)
  | park i =>
    obtain ⟨parking, rfl⟩ := move_some taken
    have empty := conserving.parked (List.mem_of_getElem? parking)
    constructor
    case good => exact conserving.good
    case parked => exact fun _ => empty
    case served =>
      intro _
      change size m.state ≤ _
      omega
  | comeBack i =>
    obtain ⟨away, rfl⟩ := move_some taken
    have counted := count_set .entering .entering away
    constructor
    case good => exact conserving.good
    case parked => exact fun member => conserving.parked (mem_set_of_ne (by decide) member)
    case served =>
      intro member
      have before := conserving.served (mem_set_of_ne (by decide) member)
      simp only [reduceCtorEq, if_false, if_true] at counted
      change size m.state ≤ (m.threads.set i .entering).count .entering + m.signals
      omega
  | close =>
    cases taken
    exact ⟨conserving.good, conserving.parked, conserving.served⟩
  | signalAll =>
    simp only [Monitor.step] at taken
    split at taken
    · cases taken
      constructor
      case good => exact conserving.good
      case parked =>
        intro member
        obtain ⟨p, old, same⟩ := List.mem_map.mp member
        split at same
        · cases same
        · subst same
          exact conserving.parked old
      case served =>
        intro member
        obtain ⟨p, _, same⟩ := List.mem_map.mp member
        split at same
        · cases same
        · contradiction
    · cases taken

theorem Conserving.run (conserving : m.Conserving good size) (stock : Stock put take good size)
    {es : List (Event ι τ)} (reached : Lib.run (Monitor.step put take) m es = some m') :
    m'.Conserving good size :=
  run_invariant (Monitor.step put take) (Conserving good size)
    (fun _ _ _ taken conserving => conserving.step stock taken) m m' es reached conserving

end

/-! ### Closing -/

/-- The threads that wait, or are about to. -/
def Waits (m : Monitor σ) (i : Nat) : Prop :=
  m.threads[i]? = some .parking ∨ m.threads[i]? = some .asleep

section

variable {put : ι → σ → Option σ} {take : τ → σ → Option σ} {m m' : Monitor σ}

theorem waits_set {i j : Nat} {before after : Phase} (found : m.threads[i]? = some before)
    (same : (before = .parking ∨ before = .asleep) ↔ (after = .parking ∨ after = .asleep)) :
    Waits { m with threads := m.threads.set i after } j ↔ m.Waits j := by
  obtain ⟨bound, _⟩ := List.getElem?_eq_some_iff.mp found
  by_cases own : i = j
  · subst own
    simp only [Waits, List.getElem?_set_self bound, found, Option.some.injEq]
    exact same.symm
  · simp only [Waits, List.getElem?_set_ne own]

/-- In a closed monitor nobody starts to wait, and without a signal nobody stops. -/
theorem step_waits {e : Event ι τ} (taken : m.step put take e = some m') (quiet : e.Quiet)
    (closed : m.closed = true) (unsignalled : ∀ woken, e = .signal woken → m.signals = 0) :
    m'.closed = true ∧ m'.signals = m.signals ∧ ∀ i, m'.Waits i ↔ m.Waits i := by
  cases e with
  | put item => exact quiet.elim
  | spurious i => exact quiet.elim
  | signalAll => exact quiet.elim
  | signal woken =>
    simp only [step, if_pos (unsignalled woken rfl)] at taken
    cases taken
  | enter i how =>
    rw [step] at taken
    split at taken
    · cases taken
    · split at taken
      · obtain ⟨entering, rfl⟩ := move_some taken
        exact ⟨closed, rfl, fun j => waits_set entering (by decide)⟩
      · obtain ⟨entering, rfl⟩ := move_some taken
        exact ⟨closed, rfl, fun j => waits_set entering (by simp)⟩
  | park i =>
    obtain ⟨parking, rfl⟩ := move_some taken
    exact ⟨closed, rfl, fun j => waits_set parking (by decide)⟩
  | comeBack i =>
    obtain ⟨away, rfl⟩ := move_some taken
    exact ⟨closed, rfl, fun j => waits_set away (by decide)⟩
  | close =>
    cases taken
    exact ⟨rfl, rfl, fun i => Iff.rfl⟩

/-- After `signalAll` the threads that wait are those that were parking. -/
theorem signalAll_waits (taken : m.step put take .signalAll = some m') :
    m'.closed = true ∧ m'.signals = m.signals ∧
      ∀ i : Nat, m'.threads[i]? ≠ some .asleep ∧
        (m'.threads[i]? = some .parking ↔ m.threads[i]? = some .parking) := by
  simp only [step] at taken
  split at taken
  · rename_i closed
    cases taken
    refine ⟨closed, rfl, fun i => ?_⟩
    simp only [List.getElem?_map]
    cases m.threads[i]? with
    | none => simp
    | some p => cases p <;> simp
  · cases taken

/-- A thread that had tested the flag before the monitor was closed, and was not asleep yet when
it was signalled, waits for ever if no signal is still to come. -/
theorem waits_for_ever {t : Monitor σ} {es : List (Event ι τ)} {i : Nat}
    (signalled : m.step put take .signalAll = some m')
    (rest : Lib.run (step put take) m' es = some t) (quiet : ∀ e ∈ es, e.Quiet)
    (parking : m.threads[i]? = some .parking) (signals : m.signals = 0) : t.Waits i := by
  obtain ⟨closed, same, waits⟩ := signalAll_waits signalled
  have kept := run_invariant_along (step put take) (fun _ e _ => e.Quiet)
    (fun s => s.closed = true ∧ s.signals = 0 ∧ s.Waits i)
    (fun s e s' taken ok inv => by
      obtain ⟨closed', same', waits'⟩ := step_waits taken ok inv.1 fun _ _ => inv.2.1
      exact ⟨closed', same'.trans inv.2.1, (waits' i).mpr inv.2.2⟩)
    m' t es rest (along_of_forall _ _ _ es fun e member => quiet e member)
    ⟨closed, same.trans signals, .inl ((waits i).2.mpr parking)⟩
  exact kept.2.2

/-- The mutex has one owner. -/
theorem step_parking {e : Event ι τ} (taken : m.step put take e = some m')
    (alone : m.threads.count .parking ≤ 1) : m'.threads.count .parking ≤ 1 := by
  have moved {before after : Phase} {i : Nat} (found : m.threads[i]? = some before)
      (other : after ≠ .parking) : (m.threads.set i after).count .parking ≤ 1 := by
    have counted := count_set after .parking found
    rw [if_neg other] at counted
    omega
  cases e with
  | put item =>
    simp only [step] at taken
    split at taken
    · cases taken
    · split at taken <;> cases taken <;> exact alone
  | signal woken =>
    simp only [step] at taken
    split at taken
    · cases taken
    · cases woken with
      | some i =>
        obtain ⟨asleep, rfl⟩ := move_some taken
        exact moved asleep (by decide)
      | none =>
        dsimp only at taken
        split at taken <;> cases taken
        exact alone
  | spurious i =>
    obtain ⟨asleep, rfl⟩ := move_some taken
    exact moved asleep (by decide)
  | enter i how =>
    simp only [step] at taken
    split at taken
    · cases taken
    · rename_i free
      split at taken
      · obtain ⟨entering, rfl⟩ := move_some taken
        exact moved entering (by decide)
      · -- nobody had the mutex before
        obtain ⟨entering, rfl⟩ := move_some taken
        have nobody := List.count_eq_zero.mpr (not_parking free)
        have counted := count_set (if m.closed then .gone else .parking) .parking entering
        have one :
            (if (if m.closed then Phase.gone else .parking) = .parking then 1 else 0) ≤ 1 := by
          split <;> decide
        dsimp only
        omega
  | park i =>
    obtain ⟨parking, rfl⟩ := move_some taken
    exact moved parking (by decide)
  | comeBack i =>
    obtain ⟨away, rfl⟩ := move_some taken
    exact moved away (by decide)
  | close =>
    cases taken
    exact alone
  | signalAll =>
    simp only [step] at taken
    split at taken
    · cases taken
      have same : (m.threads.map fun p => if p = .asleep then .entering else p).count .parking =
          m.threads.count .parking := by
        simp only [List.count, List.countP_map]
        apply List.countP_congr
        intro p _
        cases p <;> simp
      exact same ▸ alone
    · cases taken

/-- How many steps a thread has to make for what it is doing. -/
def stepsOf : Phase → Nat
  | .away => 2
  | .entering => 1
  | .parking | .asleep | .gone => 0

/-- When nobody waits, the threads of a closed monitor can take out what there is and leave. -/
theorem can_empty {good : σ → Prop} {size : σ → Nat} [Inhabited τ]
    (stock : Stock put take good size) (m : Monitor σ) (fine : good m.state)
    (closed : m.closed = true) (nobody : ∀ i, ¬ m.Waits i) :
    ∃ (es : List (Event ι τ)) (t : Monitor σ), (∀ e ∈ es, e.Quiet) ∧
      Lib.run (step put take) m es = some t ∧ ∀ p ∈ t.threads, p = .gone := by
  -- a thread that takes an item is away for two steps, and there is one item less
  induction work : 2 * size m.state + (m.threads.map stepsOf).sum using
    Nat.strong_induction_on generalizing m with
  | _ n ih =>
  by_cases finished : ∀ p ∈ m.threads, p = .gone
  · exact ⟨[], m, by simp, rfl, finished⟩
  push Not at finished
  obtain ⟨p, member, busy⟩ := finished
  obtain ⟨i, found⟩ := List.mem_iff_getElem?.mp member
  have free : m.locked = false := by
    rw [← Bool.not_eq_true]
    intro locked
    have parking : .parking ∈ m.threads := by simpa [Monitor.locked] using locked
    obtain ⟨j, at_⟩ := List.mem_iff_getElem?.mp parking
    exact nobody j (.inl at_)
  -- one step of thread `i`, and the rest by induction
  have next {e : Event ι τ} {m' : Monitor σ} (taken : m.step put take e = some m')
      (quiet : e.Quiet) (own : ∀ woken, e ≠ .signal woken) (fine' : good m'.state)
      (less : 2 * size m'.state + (m'.threads.map stepsOf).sum < n) :
      ∃ (es : List (Event ι τ)) (t : Monitor σ), (∀ e ∈ es, e.Quiet) ∧
        Lib.run (step put take) m es = some t ∧ ∀ p ∈ t.threads, p = .gone := by
    obtain ⟨closed', _, waits⟩ :=
      step_waits taken quiet closed fun woken signal => absurd signal (own woken)
    obtain ⟨es, t, quiet', rest, all⟩ :=
      ih _ less m' fine' closed' (fun j => mt (waits j).mp (nobody j)) rfl
    refine ⟨e :: es, t, ?_, (run_cons_iff _ _ _ _ _).mpr ⟨m', taken, rest⟩, all⟩
    simpa [quiet] using quiet'
  cases p with
  | parking => exact absurd (.inl found) (nobody i)
  | asleep => exact absurd (.inr found) (nobody i)
  | gone => exact absurd rfl busy
  | away =>
    have weight := sum_map_set found stepsOf .entering
    have stepped : m.step put take (.comeBack i) =
        some { m with threads := m.threads.set i .entering } := if_pos found
    apply next stepped trivial (by simp) fine
    simp only [stepsOf] at weight
    dsimp only
    omega
  | entering =>
    cases taken : take default m.state with
    | some state =>
      obtain ⟨fine', less⟩ := stock.take_size _ _ _ fine taken
      have weight := sum_map_set found stepsOf .away
      have stepped : m.step put take (.enter i default) =
          some { m with state := state, threads := m.threads.set i .away } := by
        rw [step, if_neg (by simp [free]), taken]
        exact if_pos found
      apply next stepped trivial (by simp) fine'
      simp only [stepsOf] at weight
      dsimp only
      omega
    | none =>
      have weight := sum_map_set found stepsOf .gone
      have stepped : m.step put take (.enter i default) =
          some { m with threads := m.threads.set i .gone } := by
        rw [step, if_neg (by simp [free]), taken, if_pos closed]
        exact if_pos found
      apply next stepped trivial (by simp) fine
      simp only [stepsOf] at weight
      dsimp only
      omega

/-- The only thread that is about to sleep can be woken by a signal that is still to come. -/
theorem can_wake (put : ι → σ → Option σ) (take : τ → σ → Option σ) {i : Nat}
    (found : m.threads[i]? = some .parking)
    (alone : m.threads.count .parking ≤ 1) (nobody : ∀ j : Nat, m.threads[j]? ≠ some .asleep)
    (more : m.signals ≠ 0) :
    ∃ woken : Monitor σ,
      Lib.run (step put take) m [.park i, .signal (some i)] = some woken ∧
        woken.state = m.state ∧ woken.closed = m.closed ∧ ∀ j, ¬ woken.Waits j := by
  obtain ⟨bound, _⟩ := List.getElem?_eq_some_iff.mp found
  have parks : m.step put take (.park i) =
      some { m with threads := m.threads.set i .asleep } := if_pos found
  have wakes : step put take { m with threads := m.threads.set i .asleep } (.signal (some i)) =
      some { m with threads := (m.threads.set i .asleep).set i .entering
                    signals := m.signals - 1 } := by
    rw [step, if_neg more]
    exact if_pos (List.getElem?_set_self bound)
  refine ⟨_, (run_cons_iff _ _ _ _ _).mpr ⟨_, parks, (run_cons_iff _ _ _ _ _).mpr
    ⟨_, wakes, rfl⟩⟩, rfl, rfl, fun j => ?_⟩
  rw [Waits, List.set_set]
  rintro (parked | slept)
  · have counted := count_set .entering .parking found
    simp only [if_true, reduceCtorEq, if_false] at counted
    have none_ : .parking ∉ m.threads.set i .entering := List.count_eq_zero.mp (by omega)
    exact none_ (List.mem_of_getElem? parked)
  · by_cases own : i = j
    · rw [← own, List.getElem?_set_self bound] at slept
      cases slept
    · rw [List.getElem?_set_ne own] at slept
      exact nobody j slept

/-- The threads of a closed monitor that was signalled can leave unless one of them is about to
sleep, or even then with a signal that is still to come. -/
theorem can_leave {good : σ → Prop} {size : σ → Nat} [Inhabited τ]
    (stock : Stock put take good size) (fine : good m'.state)
    (signalled : m.step put take .signalAll = some m') (alone : m.threads.count .parking ≤ 1)
    (awaited : .parking ∉ m.threads ∨ 0 < m.signals) :
    ∃ (es : List (Event ι τ)) (t : Monitor σ), (∀ e ∈ es, e.Quiet) ∧
      Lib.run (step put take) m' es = some t ∧ ∀ p ∈ t.threads, p = .gone := by
  obtain ⟨closed, same, waits⟩ := signalAll_waits signalled
  by_cases parking : .parking ∈ m.threads
  · obtain ⟨i, found⟩ := List.mem_iff_getElem?.mp parking
    have more : m'.signals ≠ 0 := by
      rcases awaited with nobody | more
      · exact absurd parking nobody
      · omega
    obtain ⟨woken, ran, state, still, nobody⟩ := can_wake put take ((waits i).2.mpr found)
      (step_parking signalled alone) (fun j => (waits j).1) more
    obtain ⟨es, t, quiet, rest, left⟩ :=
      can_empty stock woken (state ▸ fine) (still.trans closed) nobody
    refine ⟨[.park i, .signal (some i)] ++ es, t, ?_, ?_, left⟩
    · simpa [Event.Quiet] using quiet
    · rw [run_append, ran]
      exact rest
  · apply can_empty stock m' fine closed
    rintro i (parked | slept)
    · exact parking (List.mem_of_getElem? ((waits i).2.mp parked))
    · exact (waits i).1 slept

end

end Monitor

end VllmRoute.Lib
