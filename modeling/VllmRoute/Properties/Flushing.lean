import VllmRoute.Lib.Run
import VllmRoute.Observability.Service

/-!
# Flushes and the life cycle of the metrics service

While the calls of `configure` and `stop` do not overlap, where the current one
stands decides what the flags, the worker and the store can be. From that:
flushes do not overlap, the worker finds the store open, the counters are those
of the store, and the reported status is true. `stop` does not take the mutex of
a reload, and when it runs into a `configure` the status can be wrong.
-/
namespace VllmRoute.Observability

open Lib

/-! ### Flushes -/

/-- The points of a batch that the store has taken and that are not counted yet. -/
def Flush.taken : Flush → Nat
  | .record batch _ none => batch.length
  | _ => 0

/-- One for a batch that the store has refused and that is not counted yet. -/
def Flush.lost : Flush → Nat
  | .record _ _ (some _) => 1
  | _ => 0

def Control.flushes : Control → List Flush
  | .flushing flush _ => [flush]
  | _ => []

def Worker.flushes : Worker → List Flush
  | .flushing flush _ => [flush]
  | _ => []

/-- The worker will test `running_` once more. -/
def Worker.loops : Worker → Bool
  | .top | .waiting => true
  | .flushing _ last => !last
  | .returned => false

namespace Service

/-- The flushes under way. -/
def flushes (s : Service) : List Flush :=
  s.calls.flatMap Control.flushes ++ (s.worker.map Worker.flushes).getD []

/-- What the store takes is counted, or about to be. -/
theorem flushOnce_counts (s : Service) (answer : Answer) (flush : Flush) :
    let s' := (s.flushOnce answer flush).1
    let rest := (s.flushOnce answer flush).2
    s'.totalFlushPoints + (rest.map Flush.taken).getD 0 + s.accepted.length =
        s.totalFlushPoints + flush.taken + s'.accepted.length ∧
      s'.flushFailures + (rest.map Flush.lost).getD 0 + s.refused =
        s.flushFailures + flush.lost + s'.refused := by
  cases flush with
  | swap =>
    rw [flushOnce]
    split
    · simp [Flush.taken, Flush.lost]
    · dsimp only
      split <;> simp [Flush.taken, Flush.lost]
  | write batch timestampMs =>
    rw [flushOnce]
    split
    · simp [Flush.taken, Flush.lost]
      omega
    · simp [Flush.taken, Flush.lost]
      omega
  | record batch timestampMs error =>
    cases error with
    | none => simp [flushOnce, Flush.taken, Flush.lost]
    | some error => simp [flushOnce, Flush.taken, Flush.lost]

/-! ### The life cycle -/

/-- A worker runs, with the store. -/
def Works (s : Service) : Prop :=
  s.running = true ∧ s.opened = true ∧ ∃ w, s.worker = some w ∧ w.loops = true

def On (s : Service) : Prop := s.enabled = true ∧ s.Works

def Off (s : Service) : Prop := s.enabled = false ∧ s.running = false ∧ s.worker = none

/-- The flags, the worker and the store between the calls and at each point of a call. -/
def Fits (s : Service) : Option Control → Prop
  | none =>
    s.On ∧ (s.lastStatus = .running ∨ s.lastStatus = .error) ∨
      s.Off ∧ (s.lastStatus = .error ∨
        (s.lastStatus = .stopped ∨ s.lastStatus = .disabled) ∧ s.opened = false)
  | some (.disable _) => s.On ∨ s.Off
  | some (.halt _) => s.enabled = false ∧ (s.Works ∨ s.running = false ∧ s.worker = none)
  | some (.join _) =>
    s.enabled = false ∧ s.running = false ∧ (s.worker ≠ none → s.opened = true)
  | some (.flushing _ _) | some (.close _) | some (.failed _) => s.Off
  | some (.stopped _) | some (.limit _) | some (.reset _) | some (.checkDir _)
  | some (.openEngine _) => s.Off ∧ s.opened = false
  | some .enable => s.Off ∧ s.opened = true
  | some .run => s.enabled = true ∧ s.running = false ∧ s.worker = none ∧ s.opened = true
  | some .spawn => s.enabled = true ∧ s.running = true ∧ s.worker = none ∧ s.opened = true
  | some .started => s.On
  | some (.undoEnable _) => s.worker = none
  | some (.undoRun _) => s.enabled = false ∧ s.worker = none

/-- The counters are those of the store, up to the flushes under way. -/
def Counted (s : Service) (flushes : List Flush) : Prop :=
  s.totalFlushPoints + (flushes.map Flush.taken).sum = s.accepted.length ∧
    s.flushFailures + (flushes.map Flush.lost).sum = s.refused

variable {s s' : Service} {call : Control} {rest : Option Control}

theorem fits_control {answer : Answer} (fits : s.Fits (some call))
    (taken : s.controlStep answer call = some (s', rest)) : s'.Fits rest := by
  cases call with
  | disable next =>
    cases taken
    rcases fits with ⟨_, works⟩ | ⟨_, off⟩
    · exact ⟨rfl, .inl works⟩
    · exact ⟨rfl, .inr off⟩
  | halt next =>
    cases taken
    obtain ⟨disabled, ⟨_, opened, _⟩ | ⟨_, none⟩⟩ := fits
    · exact ⟨disabled, rfl, fun _ => opened⟩
    · exact ⟨disabled, rfl, fun some => absurd none some⟩
  | join next =>
    simp only [controlStep] at taken
    split at taken <;> cases taken
    · exact ⟨fits.1, fits.2.1, rfl⟩
    · exact ⟨fits.1, fits.2.1, rfl⟩
  | flushing flush next =>
    obtain ⟨enabled, running, _, worker, _⟩ := s.flushOnce_frame answer flush
    have off : (s.flushOnce answer flush).1.Off := by
      rw [Off, enabled, running, worker]
      exact fits
    simp only [controlStep, Option.some.injEq, Prod.mk.injEq] at taken
    obtain ⟨rfl, rfl⟩ := taken
    cases (s.flushOnce answer flush).2 with
    | none => exact off
    | some flush => exact off
  | close next =>
    cases taken
    exact ⟨fits, rfl⟩
  | stopped next =>
    cases taken
    cases next with
    | some config => exact fits
    | none =>
      refine .inr ⟨fits.1, .inr ⟨?_, fits.2⟩⟩
      dsimp only
      split
      · exact .inl rfl
      · exact .inr rfl
  | limit config =>
    cases taken
    exact fits
  | reset config =>
    cases taken
    cases enabled : config.enabled with
    | true => exact fits
    | false => exact .inr ⟨fits.1, .inr ⟨.inr rfl, fits.2⟩⟩
  | checkDir config =>
    cases taken
    by_cases empty : config.dbDir = ""
    · rw [if_pos empty]
      exact fits.1
    · rw [if_neg empty]
      exact fits
  | openEngine config =>
    simp only [controlStep] at taken
    split at taken <;> cases taken
    · exact ⟨fits.1, rfl⟩
    · exact fits.1.2.2
  | enable =>
    cases taken
    exact ⟨rfl, fits.1.2.1, fits.1.2.2, fits.2⟩
  | run =>
    cases taken
    exact ⟨fits.1, rfl, fits.2.2⟩
  | spawn =>
    obtain ⟨enabled, running, none, opened⟩ := fits
    simp only [controlStep, none, Option.isSome_none, Bool.false_eq_true, if_false] at taken
    split at taken <;> cases taken
    · exact ⟨enabled, running, opened, .top, rfl, rfl⟩
    · exact none
  | started =>
    cases taken
    exact .inl ⟨fits, .inl rfl⟩
  | undoEnable message =>
    cases taken
    exact ⟨rfl, fits⟩
  | undoRun message =>
    cases taken
    exact ⟨fits.1, rfl, fits.2⟩
  | failed message =>
    cases taken
    exact .inr ⟨fits, .inl rfl⟩

/-- No thread is overwritten. -/
theorem controlStep_live {answer : Answer} (fits : s.Fits (some call))
    (taken : s.controlStep answer call = some (s', rest)) : s'.terminated = s.terminated := by
  cases call with
  | flushing flush next =>
    obtain ⟨_, _, _, _, _, terminated, _⟩ := s.flushOnce_frame answer flush
    simp only [controlStep, Option.some.injEq, Prod.mk.injEq] at taken
    obtain ⟨rfl, _⟩ := taken
    exact terminated
  | join | openEngine =>
    simp only [controlStep] at taken
    split at taken <;> cases taken <;> rfl
  | spawn =>
    simp only [controlStep, fits.2.2.1, Option.isSome_none, Bool.false_eq_true, if_false] at taken
    split at taken <;> cases taken <;> rfl
  | _ =>
    cases taken
    rfl

/-- What the worker leaves alone. While `running_` holds, it stays in its loop. -/
theorem workerLoop_frame {answer : Answer} {w : Worker}
    (taken : s.workerLoop answer w = some s') :
    s'.enabled = s.enabled ∧ s'.running = s.running ∧ s'.opened = s.opened ∧
      s'.calls = s.calls ∧ s'.terminated = s.terminated ∧
      (s'.lastStatus = s.lastStatus ∨ s'.lastStatus = .running ∨ s'.lastStatus = .error) ∧
      ∃ w', s'.worker = some w' ∧ (s.running = true → w.loops = true → w'.loops = true) := by
  cases w with
  | top =>
    cases taken
    refine ⟨rfl, rfl, rfl, rfl, rfl, .inl rfl, _, rfl, ?_⟩
    intro running _
    rw [if_pos running]
    rfl
  | waiting =>
    cases taken
    refine ⟨rfl, rfl, rfl, rfl, rfl, .inl rfl, _, rfl, ?_⟩
    intro running _
    rw [running]
    rfl
  | flushing flush last =>
    obtain ⟨enabled, running, opened, _, calls, terminated, _, status⟩ :=
      s.flushOnce_frame answer flush
    cases taken
    refine ⟨enabled, running, opened, calls, terminated, status, _, rfl, ?_⟩
    intro _ more
    split
    · exact more
    · rw [Worker.loops, Bool.not_eq_true'] at more
      rw [more]
      rfl
  | returned => cases taken

theorem Works.work (works : s.Works) {answer : Answer} {w : Worker} (here : s.worker = some w)
    (taken : s.workerLoop answer w = some s') : s'.Works := by
  obtain ⟨running, opened, w', here', loops⟩ := works
  cases here.symm.trans here'
  obtain ⟨_, running', opened', _, _, _, w'', next, stays⟩ := workerLoop_frame taken
  exact ⟨running'.trans running, opened'.trans opened, w'', next, stays running loops⟩

theorem fits_work {at_ : Option Control} (fits : s.Fits at_) {answer : Answer} {w : Worker}
    (here : s.worker = some w) (taken : s.workerLoop answer w = some s') : s'.Fits at_ := by
  obtain ⟨enabled, running, opened, _, _, status, w', next, _⟩ := workerLoop_frame taken
  have on (before : s.On) : s'.On := ⟨enabled.trans before.1, before.2.work here taken⟩
  have notOff : ¬ s.Off := by
    rintro ⟨_, _, none⟩
    cases here.symm.trans none
  -- only where a worker can be there is something to show
  rcases at_ with _ | call
  · rcases fits with ⟨before, known⟩ | ⟨off, _⟩
    · refine .inl ⟨on before, ?_⟩
      rcases status with same | now
      · rwa [same]
      · exact now
    · exact absurd off notOff
  cases call <;> simp only [Fits] at fits ⊢
  case disable =>
    rcases fits with before | off
    · exact .inl (on before)
    · exact absurd off notOff
  case halt =>
    obtain ⟨disabled, works | ⟨_, none⟩⟩ := fits
    · exact ⟨enabled.trans disabled, .inl (works.work here taken)⟩
    · cases here.symm.trans none
  case join =>
    obtain ⟨disabled, halted, open_⟩ := fits
    exact ⟨enabled.trans disabled, running.trans halted,
      fun _ => opened.trans (open_ (by simp [here]))⟩
  case started => exact on fits
  all_goals simp_all [Off]

/-! ### Counters -/

/-- While the flush of a call is under way, there is no worker. -/
theorem Fits.alone {flush : Flush} {next : Option ObservabilityConfig}
    (fits : s.Fits (some (.flushing flush next))) : s.worker = none := fits.2.2

/-- The flushes under way when there is one call at most. -/
def flushesAt (s : Service) (at_ : Option Control) : List Flush :=
  (at_.map Control.flushes).getD [] ++ (s.worker.map Worker.flushes).getD []

theorem counted_control {answer : Answer} (fits : s.Fits (some call))
    (counted : s.Counted (s.flushesAt (some call)))
    (taken : s.controlStep answer call = some (s', rest)) :
    s'.Counted (s'.flushesAt rest) := by
  cases call with
  | flushing flush next =>
    have alone := fits.alone
    obtain ⟨_, _, _, worker, _⟩ := s.flushOnce_frame answer flush
    obtain ⟨total, failures⟩ := s.flushOnce_counts answer flush
    simp only [controlStep, Option.some.injEq, Prod.mk.injEq] at taken
    obtain ⟨rfl, rfl⟩ := taken
    simp only [Counted, flushesAt, worker, alone] at counted ⊢
    cases rest : (s.flushOnce answer flush).2 <;>
      simp [rest, Control.flushes] at counted total failures ⊢ <;> omega
  | reset config =>
    have alone := fits.1.2.2
    cases taken
    simp only [Counted, flushesAt, alone]
    split <;> simp [Control.flushes]
  | join next =>
    simp only [controlStep] at taken
    split at taken <;> cases taken <;>
      simpa [Counted, flushesAt, Control.flushes, Flush.taken, Flush.lost, *,
        Worker.flushes] using counted
  | spawn =>
    have alone := fits.2.2.1
    simp only [controlStep, alone, Option.isSome_none, Bool.false_eq_true, if_false] at taken
    split at taken <;> cases taken <;>
      simpa [Counted, flushesAt, Control.flushes, alone, Worker.flushes] using counted
  | checkDir config =>
    cases taken
    split <;> simpa [Counted, flushesAt, Control.flushes] using counted
  | openEngine config =>
    simp only [controlStep] at taken
    split at taken <;> cases taken <;>
      simpa [Counted, flushesAt, Control.flushes] using counted
  | stopped next =>
    cases taken
    cases next <;> simpa [Counted, flushesAt, Control.flushes] using counted
  | disable _ | halt _ | close _ | limit _ | enable | run | started | undoEnable _ | undoRun _
  | failed _ =>
    cases taken
    simpa [Counted, flushesAt, Control.flushes] using counted

theorem counted_work {at_ : Option Control} (fits : s.Fits at_)
    (counted : s.Counted (s.flushesAt at_)) {answer : Answer} {w : Worker}
    (here : s.worker = some w) (taken : s.workerLoop answer w = some s') :
    s'.Counted (s'.flushesAt at_) := by
  have alone : (at_.map Control.flushes).getD [] = [] := by
    rcases at_ with _ | call
    · rfl
    cases call <;> try rfl
    cases here.symm.trans fits.alone
  simp only [Counted, flushesAt, alone, here, Option.map_some, Option.getD_some,
    List.nil_append] at counted
  simp only [Counted, flushesAt, alone, List.nil_append]
  cases w with
  | top =>
    cases taken
    cases running : s.running <;> simpa [Worker.flushes, Flush.taken, Flush.lost] using counted
  | waiting =>
    cases taken
    simpa [Worker.flushes, Flush.taken, Flush.lost] using counted
  | flushing flush last =>
    obtain ⟨total, failures⟩ := s.flushOnce_counts answer flush
    simp only [workerLoop, Option.some.injEq] at taken
    subst taken
    simp only [Worker.flushes, List.map_cons, List.map_nil, List.sum_cons, List.sum_nil] at counted
    cases rest : (s.flushOnce answer flush).2 <;> cases last <;>
      simp [rest, Worker.flushes] at total failures ⊢ <;> omega
  | returned => cases taken

/-! ### Runs of calls that do not overlap -/

/-- No two calls of `configure` and `stop` are in progress. -/
def Serial (_ : Service) (_ : Event) (s' : Service) : Prop := s'.calls.length ≤ 1

instance (s : Service) (e : Event) (s' : Service) : Decidable (Serial s e s') :=
  inferInstanceAs (Decidable (_ ≤ _))

/-- What holds in a run of calls that do not overlap. -/
structure Orderly (s : Service) : Prop where
  live : s.terminated = false
  single : s.calls.length ≤ 1
  fits : s.Fits s.calls.head?
  counted : s.Counted (s.flushesAt s.calls.head?)

theorem orderly_start : ({} : Service).Orderly :=
  ⟨rfl, Nat.zero_le _, .inr ⟨⟨rfl, rfl, rfl⟩, .inr ⟨.inr rfl, rfl⟩⟩, rfl, rfl⟩

/-- A call begins, and there was none before it. -/
theorem Orderly.begins (orderly : s.Orderly) (next : Option ObservabilityConfig)
    (serial : (s.calls ++ [Control.disable next]).length ≤ 1) :
    Orderly { s with calls := s.calls ++ [.disable next] } := by
  obtain ⟨live, _, fits, counted⟩ := orderly
  have none_ : s.calls = [] := by
    rw [List.length_append] at serial
    exact List.length_eq_zero_iff.mp (Nat.le_zero.mp (Nat.le_of_succ_le_succ serial))
  rw [none_] at fits counted ⊢
  exact ⟨live, Nat.le_refl 1, fits.imp And.left And.left, counted⟩

theorem Orderly.control (orderly : s.Orderly) {k : Nat} {answer : Answer} {s₁ : Service}
    (found : s.calls[k]? = some call) (taken : s.controlStep answer call = some (s₁, rest)) :
    (s₁.goOn k rest).Orderly := by
  obtain ⟨live, single, fits, counted⟩ := orderly
  have only : s.calls = [call] ∧ k = 0 := by
    obtain ⟨bound, rfl⟩ := List.getElem?_eq_some_iff.mp found
    have first : k = 0 := by omega
    subst first
    obtain ⟨c, one⟩ := List.length_eq_one_iff.mp (by omega : s.calls.length = 1)
    simp [one]
  obtain ⟨calls, rfl⟩ := only
  rw [calls] at fits counted
  have same := controlStep_calls taken
  rw [calls] at same
  have left : (s₁.goOn 0 rest).calls = rest.toList := by
    cases rest <;> simp [goOn, same]
  constructor
  case live => exact (controlStep_live fits taken).trans live
  case single =>
    rw [left]
    cases rest <;> simp
  case fits =>
    have fits' : s₁.Fits rest := fits_control fits taken
    rw [left, Option.head?_toList]
    exact fits'
  case counted =>
    have counted' : s₁.Counted (s₁.flushesAt rest) := counted_control fits counted taken
    rw [left, Option.head?_toList]
    exact counted'

theorem orderly_step (orderly : s.Orderly) {e : Event} (taken : s.step e = some s')
    (serial : s'.calls.length ≤ 1) : s'.Orderly := by
  rw [step, if_neg (by simp [orderly.live])] at taken
  cases e with
  | configure config =>
    cases taken
    exact orderly.begins (some config) serial
  | stop =>
    cases taken
    exact orderly.begins none serial
  | control k answer =>
    obtain ⟨⟨s₁, rest⟩, moved, rfl⟩ := Option.map_eq_some_iff.mp taken
    obtain ⟨call, found, stepped⟩ := Option.bind_eq_some_iff.mp moved
    exact orderly.control found stepped
  | work answer =>
    obtain ⟨w, here, moved⟩ := Option.bind_eq_some_iff.mp taken
    obtain ⟨_, _, _, calls, terminated, _⟩ := workerLoop_frame moved
    refine ⟨terminated.trans orderly.live, serial, ?_, ?_⟩
    · rw [calls]
      exact fits_work orderly.fits here moved
    · rw [calls]
      exact counted_work orderly.fits orderly.counted here moved
  | observe observation =>
    simp only [stepLive, Option.some.injEq] at taken
    subst taken
    split
    · exact ⟨orderly.live, orderly.single, orderly.fits, orderly.counted⟩
    · exact orderly
  | add k =>
    obtain ⟨observation, _, rfl⟩ := Option.map_eq_some_iff.mp taken
    exact ⟨orderly.live, orderly.single, orderly.fits, orderly.counted⟩

variable {es : List Event}

theorem orderly_of_run (reached : run step {} es = some s) (serial : Along step Serial {} es) :
    s.Orderly :=
  run_invariant_along step Serial Orderly
    (fun _ _ _ taken serial orderly => orderly_step orderly taken serial) {} s es reached serial
    orderly_start

/-- The flushes of an orderly service are those of its one call and of its worker. -/
theorem Orderly.flushes_eq (orderly : s.Orderly) :
    s.flushes = s.flushesAt s.calls.head? := by
  have single := orderly.single
  unfold flushes flushesAt
  match calls : s.calls with
  | [] => rfl
  | [call] => simp
  | _ :: _ :: _ =>
    rw [calls] at single
    simp at single

/-- The service is configured, a request is rejected, and the worker has written one point. -/
def oneFlush : List Event :=
  [.configure { enabled := true }] ++ List.replicate 14 (.control 0 {}) ++
    [.observe (.queueReject (lit "chat")), .add 0] ++ List.replicate 4 (.work {})

theorem oneFlush_serial : Along step Serial {} oneFlush := by decide +kernel

/-- While the calls of `configure` and `stop` do not overlap, two flushes are never under way at
once, the flush of the worker finds the store open (only that of `stop` can find it closed), and
the thread of the worker is not overwritten. -/
theorem flushes_do_not_overlap (reached : run step {} es = some s)
    (serial : Along step Serial {} es) :
    s.flushes.length ≤ 1 ∧ s.terminated = false ∧
      ∀ flush last, s.worker = some (.flushing flush last) → s.opened = true := by
  have orderly := orderly_of_run reached serial
  have fits := orderly.fits
  rw [orderly.flushes_eq]
  generalize s.calls.head? = at_ at fits
  refine ⟨?_, orderly.live, ?_⟩
  · have own : ((s.worker.map Worker.flushes).getD []).length ≤ 1 := by
      cases s.worker with
      | none => simp
      | some w => cases w <;> simp [Worker.flushes]
    rcases at_ with _ | call
    · simpa [flushesAt] using own
    cases call <;> simp only [flushesAt, Option.map_some, Option.getD_some, Control.flushes,
      List.nil_append]
    case flushing flush next => simp [fits.alone]
    all_goals exact own
  · intro flush last here
    have notOff : ¬ s.Off := by
      rintro ⟨_, _, none⟩
      cases here.symm.trans none
    rcases at_ with _ | call
    · rcases fits with ⟨on, _⟩ | ⟨off, _⟩
      · exact on.2.2.1
      · exact absurd off notOff
    cases call <;> simp only [Fits] at fits
    case disable =>
      rcases fits with on | off
      · exact on.2.2.1
      · exact absurd off notOff
    case halt =>
      obtain ⟨_, works | ⟨_, none⟩⟩ := fits
      · exact works.2.1
      · cases here.symm.trans none
    case join => exact fits.2.2 (by simp [here])
    case started => exact fits.2.2.1
    all_goals simp_all [Off]

theorem flushes_do_not_overlap_one_flush : ∃ s flush last, run step {} oneFlush = some s ∧
    s.worker = some (.flushing flush last) ∧ s.flushes.length ≤ 1 ∧ s.opened = true := by
  have ran : (run step {} oneFlush).map (fun s => s.worker.map fun w => w.flushes.length) =
      some (some 1) := by
    decide +kernel
  obtain ⟨s, reached, one⟩ := Option.map_eq_some_iff.mp ran
  obtain ⟨w, here, flushing⟩ := Option.map_eq_some_iff.mp one
  obtain ⟨single, _, open_⟩ := flushes_do_not_overlap reached oneFlush_serial
  cases w with
  | flushing flush last => exact ⟨s, flush, last, reached, here, single, open_ flush last here⟩
  | top | waiting | returned => cases flushing

/-- The counters that `snapshot` reports are those of the store while the calls do not overlap:
since the service was last configured, it took as many points as are counted and refused as many
batches, up to the one flush that is yet to count its batch. -/
theorem flush_counters_exact (reached : run step {} es = some s)
    (serial : Along step Serial {} es) :
    s.totalFlushPoints + (s.flushes.map Flush.taken).sum = s.accepted.length ∧
      s.flushFailures + (s.flushes.map Flush.lost).sum = s.refused := by
  have orderly := orderly_of_run reached serial
  rw [orderly.flushes_eq]
  exact orderly.counted

theorem flush_counters_exact_one_flush : ∃ s, run step {} oneFlush = some s ∧
    s.accepted.length = 1 ∧
      s.totalFlushPoints + (s.flushes.map Flush.taken).sum = s.accepted.length := by
  have ran : (run step {} oneFlush).map (fun s => s.accepted.length) = some 1 := by
    decide +kernel
  obtain ⟨s, reached, one⟩ := Option.map_eq_some_iff.mp ran
  exact ⟨s, reached, one, (flush_counters_exact reached oneFlush_serial).1⟩

/-- Between calls of `configure` and `stop` that do not overlap the reported status is true:
with `running` the flags are set, the store is open and a worker will flush again; with
`stopped` and `disabled` nothing is left of them; and `starting` is not seen. -/
theorem reported_status_is_true (reached : run step {} es = some s)
    (serial : Along step Serial {} es) (idle : s.calls = []) :
    s.lastStatus ≠ .starting ∧
      (s.lastStatus = .running → s.On) ∧
      (s.lastStatus = .stopped ∨ s.lastStatus = .disabled → s.Off ∧ s.opened = false) := by
  have fits := (orderly_of_run reached serial).fits
  rw [idle] at fits
  rcases fits with ⟨on, status⟩ | ⟨off, status⟩
  · rcases status with same | same <;> simp [same, on]
  · rcases status with same | ⟨same | same, closed⟩
    · simp [same]
    · simp [same, off, closed]
    · simp [same, off, closed]

theorem reported_status_is_true_one_flush : ∃ s, run step {} oneFlush = some s ∧
    s.calls = [] ∧ s.lastStatus = .running ∧ s.On := by
  have ran : (run step {} oneFlush).map (fun s => (s.calls.length, s.lastStatus)) =
      some (0, .running) := by
    decide +kernel
  obtain ⟨s, reached, ends⟩ := Option.map_eq_some_iff.mp ran
  obtain ⟨waits, status⟩ : s.calls.length = 0 ∧ s.lastStatus = .running := by
    simpa using ends
  have idle := List.length_eq_zero_iff.mp waits
  exact ⟨s, reached, idle, status,
    (reported_status_is_true reached oneFlush_serial idle).2.1 status⟩

/-- A `stop` that runs into a `configure` after the store was opened closes it, and the
`configure` goes on: the status is `running`, and every flush of the worker fails. -/
theorem overlapping_stop_closes_store : ∃ es s, run step {} es = some s ∧ s.calls = [] ∧
    s.lastStatus = .running ∧ s.worker.isSome = true ∧ s.opened = false := by
  have ran : (run step {} ([.configure { enabled := true }] ++ List.replicate 10 (.control 0 {}) ++
      [.stop] ++ List.replicate 6 (.control 1 {}) ++ List.replicate 4 (.control 0 {}))).map
        (fun s => (s.calls.length, s.lastStatus, s.worker.isSome, s.opened)) =
      some (0, .running, true, false) := by
    decide +kernel
  obtain ⟨s, reached, ends⟩ := Option.map_eq_some_iff.mp ran
  obtain ⟨waits, status, works, closed⟩ : s.calls.length = 0 ∧ s.lastStatus = .running ∧
      s.worker.isSome = true ∧ s.opened = false := by
    simpa using ends
  exact ⟨_, s, reached, List.length_eq_zero_iff.mp waits, status, works, closed⟩

end Service

end VllmRoute.Observability
