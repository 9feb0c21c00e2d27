import VllmRoute.Lib.Replace
import VllmRoute.Lib.Run
import VllmRoute.Network.EventLoop

/-!
# Functors are run once, in order, and no wakeup is lost

The loop thread is followed through the turns of its loop on its own, against
any responses. The only response on which something depends is that of
`callingPendingFunctors_` in a functor that queues another one: the flag is set
then, and the loop thread wakes itself up. Together with the other threads, a
pushed functor always has somebody who sees to it before the loop thread waits
again.
-/
namespace VllmRoute.Network

open Lib

variable {Functor α : Type}

/-! ### The loop thread on its own -/

/-- Outside of `doPendingFunctors` everything that was taken has been called. -/
def LoopLog.Sound (log : LoopLog Functor) : Prop :=
  match log.phase with
  | .top | .handling | .swapping => log.called = log.taken
  | .running | .pushing => log.called <+: log.taken
  | .misled => True
  | .broken => False

/-- Whatever the responses, the code keeps to the phases, and `post` holds at its end. -/
abbrev Follows (post : α → LoopLog Functor → Prop) (code : LoopCode Functor α)
    (log : LoopLog Functor) : Prop :=
  code.Ensures LoopLog.note LoopLog.Sound post log

theorem LoopLog.phase_note (o : LoopOp Functor) (r : o.Resp) (log : LoopLog Functor) :
    (log.note o r).phase = log.phase.next o r := by
  cases o <;> rfl

theorem Phase.next_misled (o : LoopOp Functor) (r : o.Resp) : next o r .misled = .misled := by
  cases o <;> rfl

/-- Nothing is asked of a thread that was misled. -/
theorem follows_misled {post : α → LoopLog Functor → Prop} (code : LoopCode Functor α)
    {log : LoopLog Functor} (misled : log.phase = .misled)
    (ends : ∀ a log, log.phase = .misled → post a log) : Follows post code log := by
  induction code generalizing log with
  | pure a => exact ends a log misled
  | op o k ih =>
    constructor
    · simp [LoopLog.Sound, misled]
    · intro r
      apply ih r
      rw [LoopLog.phase_note, misled, Phase.next_misled]

/-- The operations of `queueInLoop` and `quit`. -/
def LoopOp.inCall : LoopOp Functor → Bool
  | .pushBack _ | .loadCalling | .writeWakeup | .storeQuit _ => true
  | _ => false

theorem callEach_only (calls : List (LoopCall Functor)) :
    (LoopCode.callEach calls).Only fun o => o.inCall = true := by
  induction calls with
  | nil => trivial
  | cons c calls ih =>
    apply Prog.only_bind
    · cases c with
      | quit => exact ⟨rfl, fun _ => trivial⟩
      | queueInLoop cb =>
        refine ⟨rfl, fun _ => ⟨rfl, fun calling => ?_⟩⟩
        cases calling with
        | false => trivial
        | true => exact ⟨rfl, fun _ => trivial⟩
    · exact fun _ => ih

section Handling

variable {l : List Functor}

theorem note_handling {o : LoopOp Functor} (inCall : o.inCall = true) (r : o.Resp) :
    LoopLog.note o r ⟨.handling, l, l⟩ = ⟨.handling, l, l⟩ := by
  cases o with
  | pushBack | writeWakeup | storeQuit => rfl
  | loadCalling => cases r <;> rfl
  | _ => cases inCall

/-- What is queued while events are handled needs no wakeup. -/
theorem handleEvents_follows (activeChannels : List ActiveChannel) :
    Follows (fun _ log => log = ⟨.handling, l, l⟩) (LoopCode.handleEvents activeChannels)
      ⟨.handling, l, l⟩ := by
  induction activeChannels with
  | nil => rfl
  | cons channel activeChannels ih =>
    cases channel with
    | wakeupChannel => exact ⟨rfl, fun _ => ih⟩
    | channel fd =>
      refine ⟨rfl, fun calls => ?_⟩
      have called : Follows (fun _ log => log = ⟨.handling, l, l⟩) (LoopCode.callEach calls)
          ⟨.handling, l, l⟩ :=
        Prog.ensures_only (fun o inCall r => note_handling inCall r) (callEach_only calls) rfl
          fun _ => rfl
      apply called.bind
      rintro _ _ rfl
      exact ih

end Handling

/-- The log of the loop thread stands at `log`, unless it was misled. -/
def At (log : LoopLog Functor) (_ : α) (log' : LoopLog Functor) : Prop :=
  log' = log ∨ log'.phase = .misled

/-- The rule of the sequence: the rest may assume that the thread was not misled. -/
theorem Follows.next {β : Type} {code : LoopCode Functor α} {f : α → LoopCode Functor β}
    {post : β → LoopLog Functor → Prop} {log log' : LoopLog Functor}
    (first : Follows (At log') code log) (rest : ∀ a, Follows post (f a) log')
    (ends : ∀ b log, log.phase = .misled → post b log) :
    Follows post (code >>= f) log := by
  apply Prog.Ensures.bind first
  rintro a _ (rfl | misled)
  · exact rest a
  · exact follows_misled (f a) misled ends

section Running

variable {taken called : List Functor}

theorem queueInLoop_running (cb : Functor) (sound : called <+: taken) :
    Follows (At ⟨.running, taken, called⟩) (LoopCode.queueInLoop true cb)
      ⟨.running, taken, called⟩ := by
  refine ⟨sound, fun _ => ⟨sound, fun calling => ?_⟩⟩
  -- that the flag is set here is known of the system only
  cases calling with
  | true => exact ⟨sound, fun _ => .inl rfl⟩
  | false => exact .inr rfl

theorem callEach_running (calls : List (LoopCall Functor)) (sound : called <+: taken) :
    Follows (At ⟨.running, taken, called⟩) (LoopCode.callEach calls)
      ⟨.running, taken, called⟩ := by
  induction calls with
  | nil => exact .inl rfl
  | cons c calls ih =>
    refine Follows.next ?_ (fun _ => ih) fun _ _ => .inr
    cases c with
    | queueInLoop cb => exact queueInLoop_running cb sound
    | quit => exact ⟨sound, fun _ => .inl rfl⟩

/-- The functors are called one after the other, whatever they queue. -/
theorem callFunctors_follows (functors : List Functor) (left : called ++ functors = taken) :
    Follows (At ⟨.running, taken, taken⟩) (LoopCode.callFunctors functors)
      ⟨.running, taken, called⟩ := by
  induction functors generalizing called with
  | nil =>
    rw [List.append_nil] at left
    exact .inl (by rw [left])
  | cons functor functors ih =>
    have sound : called <+: taken := ⟨_, left⟩
    have left' : (called ++ [functor]) ++ functors = taken := by
      rw [List.append_assoc, List.singleton_append, left]
    refine ⟨sound, fun calls => ?_⟩
    have each := callEach_running calls ⟨_, left'⟩
    exact each.next (fun _ => ih left') fun _ _ => .inr

end Running

/-- The condition of the loop heads. -/
def LoopHead (_ : LoopPoint) (log : LoopLog Functor) : Prop :=
  (log.phase = .top ∧ log.called = log.taken) ∨ log.phase = .misled

theorem LoopHead.sound {pt : LoopPoint} {log : LoopLog Functor} (head : LoopHead pt log) :
    log.Sound := by
  rcases head with ⟨phase, same⟩ | misled
  · simpa [LoopLog.Sound, phase] using same
  · simp [LoopLog.Sound, misled]

theorem doPendingFunctors_follows (l : List Functor) :
    Follows (fun _ log => (log.phase = .top ∧ log.called = log.taken) ∨ log.phase = .misled)
      LoopCode.doPendingFunctors ⟨.handling, l, l⟩ := by
  refine ⟨rfl, fun _ => ⟨rfl, fun (functors : List Functor) => ?_⟩⟩
  have each := callFunctors_follows functors (rfl : l ++ functors = l ++ functors)
  refine each.next (fun _ => ?_) fun _ _ => .inr
  exact ⟨List.prefix_rfl, fun _ => .inl ⟨rfl, rfl⟩⟩

theorem loop_loops : Loops (@loop Functor) LoopLog.note LoopLog.Sound LoopHead := by
  intro pt p log code head
  rcases head with ⟨phase, same⟩ | misled
  · obtain ⟨_, taken, called⟩ := log
    dsimp only at phase same
    subst phase same
    cases pt with
    | start =>
      cases code
      exact ⟨rfl, fun _ => .inl ⟨rfl, rfl⟩⟩
    | top =>
      cases code
      refine ⟨rfl, fun quit => ?_⟩
      cases quit with
      | true => exact .inl ⟨rfl, rfl⟩
      | false =>
        refine ⟨rfl, fun activeChannels => ?_⟩
        apply (handleEvents_follows activeChannels).bind
        rintro _ _ rfl
        apply (doPendingFunctors_follows _).bind
        exact fun _ _ => id
    | exited => cases code
  · exact follows_misled p misled fun _ _ => .inr

/-! ### One operation -/

/-- The phases in which the loop thread makes an operation. -/
def LoopOp.Fits (phase : Phase) : LoopOp Functor → Prop
  | .poll => phase = .top
  | .readWakeup | .storeCalling true => phase = .handling
  | .swapPendingFunctors => phase = .swapping
  | .callFunctor _ | .storeCalling false => phase = .running
  | .pushBack _ => phase = .handling ∨ phase = .running
  | _ => phase ≠ .broken

theorem LoopLog.Sound.phase_ne_broken {log : LoopLog Functor} (sound : log.Sound) :
    log.phase ≠ .broken := by
  intro broken
  simp [LoopLog.Sound, broken] at sound

theorem LoopLog.Sound.called_prefix_taken {log : LoopLog Functor} (sound : log.Sound)
    (real : log.phase ≠ .misled) : log.called <+: log.taken := by
  cases phase : log.phase with
  | top | handling | swapping =>
    have all : log.called = log.taken := by simpa [LoopLog.Sound, phase] using sound
    exact all ▸ List.prefix_rfl
  | running | pushing => simpa [LoopLog.Sound, phase] using sound
  | misled => exact absurd phase real
  | broken => exact absurd phase sound.phase_ne_broken

theorem LoopOp.fits_of_sound {o : LoopOp Functor} {r : o.Resp} {log : LoopLog Functor}
    (real : log.phase ≠ .misled) (sound : (log.note o r).Sound) : o.Fits log.phase := by
  have unbroken := sound.phase_ne_broken
  rw [LoopLog.phase_note] at unbroken
  generalize log.phase = phase at real unbroken
  cases o with
  | storeCalling calling =>
    cases calling <;> cases phase <;>
      first | rfl | exact absurd rfl real | exact absurd rfl unbroken
  | pushBack cb =>
    cases phase <;>
      first | exact .inl rfl | exact .inr rfl | exact absurd rfl real | exact absurd rfl unbroken
  | _ =>
    cases phase <;>
      first | rfl | exact absurd rfl real | exact absurd rfl unbroken | exact Phase.noConfusion

/-- The flag is set from before the swap until after the last functor. -/
def Phase.calling : Phase → Bool
  | .swapping | .running | .pushing => true
  | _ => false

/-- Before it polls again, the loop thread will swap the pending functors out or wake
itself up. -/
def Phase.attending : Phase → Bool
  | .handling | .swapping | .pushing => true
  | _ => false

/-- The loop and its thread, with `owed` for what the other threads are still to write. -/
structure Attended (owed : Prop) (s : EventLoop Functor) (log : LoopLog Functor) : Prop where
  real : log.phase ≠ .misled
  calling : s.callingPendingFunctors = log.phase.calling
  pushed : s.pushed = log.taken ++ s.pendingFunctors
  woken : s.pendingFunctors ≠ [] → 0 < s.wakeupFd ∨ owed ∨ log.phase.attending = true

section Operations

variable {owed : Prop} {choice : LoopChoice Functor} {s s' : EventLoop Functor}
  {log : LoopLog Functor}

theorem wakeupFd_pos_of_write {r : Unit} (executed : s.exec choice .writeWakeup = some (r, s')) :
    0 < s'.wakeupFd := by
  cases executed
  have : 0 < eventfdMax := by decide
  dsimp only
  split <;> omega

/-- An operation of the loop thread. -/
theorem Attended.exec {o : LoopOp Functor} {r : o.Resp} (attended : Attended owed s log)
    (executed : s.exec choice o = some (r, s')) (sound : (log.note o r).Sound) :
    Attended owed s' (log.note o r) := by
  have fits := LoopOp.fits_of_sound attended.real sound
  obtain ⟨phase, taken, called⟩ := log
  obtain ⟨real, calling, pushed, woken⟩ := attended
  cases o with
  | loadQuit | storeQuit | handleEvent =>
    cases executed
    cases phase <;> exact ⟨real, calling, pushed, woken⟩
  | poll =>
    cases executed
    cases fits
    exact ⟨nofun, calling, pushed, fun _ => .inr (.inr rfl)⟩
  | pushBack cb =>
    cases executed
    have pushed' : s.pushed ++ [cb] = taken ++ (s.pendingFunctors ++ [cb]) := by
      rw [pushed, List.append_assoc]
    rcases fits with fits | fits <;>
    · cases fits
      exact ⟨nofun, calling, pushed', fun _ => .inr (.inr rfl)⟩
  | swapPendingFunctors =>
    cases executed
    cases fits
    have pushed' : s.pushed = (taken ++ s.pendingFunctors) ++ [] := by
      rw [pushed, List.append_nil]
    exact ⟨nofun, calling, pushed', fun pending => absurd rfl pending⟩
  | callFunctor cb =>
    cases executed
    cases fits
    exact ⟨nofun, calling, pushed, woken⟩
  | loadCalling =>
    cases executed
    cases phase with
    | pushing =>
      -- the flag is set, so the thread goes on to the wakeup
      have set : s.callingPendingFunctors = true := calling
      rw [set]
      exact ⟨nofun, calling, pushed, fun _ => .inr (.inr rfl)⟩
    | _ => exact ⟨real, calling, pushed, woken⟩
  | storeCalling calling' =>
    cases executed
    cases calling' with
    | true =>
      cases fits
      exact ⟨nofun, rfl, pushed, fun _ => .inr (.inr rfl)⟩
    | false =>
      cases fits
      exact ⟨nofun, rfl, pushed, woken⟩
  | readWakeup =>
    cases executed
    cases fits
    exact ⟨nofun, calling, pushed, fun _ => .inr (.inr rfl)⟩
  | writeWakeup =>
    have positive := wakeupFd_pos_of_write executed
    cases executed
    cases phase with
    | misled => exact absurd rfl real
    | _ => exact ⟨nofun, calling, pushed, fun _ => .inl positive⟩

/-- A push of another thread, which then owes a wakeup. -/
theorem Attended.push (attended : Attended owed s log) {owed' : Prop} (owes : owed')
    {cb : Functor} {r : Unit} (executed : s.exec {} (.pushBack cb) = some (r, s')) :
    Attended owed' s' log := by
  cases executed
  constructor
  case real => exact attended.real
  case calling => exact attended.calling
  case pushed =>
    dsimp only
    rw [attended.pushed, List.append_assoc]
  case woken => exact fun _ => .inr (.inl owes)

/-- A wakeup of another thread. -/
theorem Attended.write (attended : Attended owed s log) (owed' : Prop) {r : Unit}
    (executed : s.exec {} .writeWakeup = some (r, s')) : Attended owed' s' log := by
  have positive := wakeupFd_pos_of_write executed
  cases executed
  exact ⟨attended.real, attended.calling, attended.pushed, fun _ => .inl positive⟩

theorem Attended.setQuit (attended : Attended owed s log) (quit : Bool) :
    Attended owed { s with quit := quit } log :=
  ⟨attended.real, attended.calling, attended.pushed, attended.woken⟩

theorem Attended.mono {owed' : Prop} (weaker : owed → owed') (attended : Attended owed s log) :
    Attended owed' s log where
  real := attended.real
  calling := attended.calling
  pushed := attended.pushed
  woken pending := (attended.woken pending).imp_right (Or.imp_left weaker)

end Operations

/-! ### The threads together -/

/-- Another thread is at the beginning of its call, before its wakeup, or done. -/
def Caller.Lawful (c : Caller Functor) : Prop :=
  (∃ call, c = Caller.ofCall call) ∨ c.prog = LoopCode.wakeup ∨ c.prog = .pure ()

/-- The invariant of the system. -/
structure Attentive (s : LoopSystem Functor) : Prop where
  follows : Follows LoopHead s.loopThread.prog s.loopThread.log
  lawful : ∀ c ∈ s.callers, c.Lawful
  attended : Attended (∃ c ∈ s.callers, c.waking = true) s.eventLoop s.loopThread.log

theorem Attentive.step_caller {s : LoopSystem Functor} {i : Nat} {c c' : Caller Functor}
    {eventLoop : EventLoop Functor} (attentive : Attentive s) (found : s.callers[i]? = some c)
    (moved : c.step (fun _ => none) Caller.note (EventLoop.exec {}) s.eventLoop =
      some (c', eventLoop)) :
    c'.Lawful ∧
      Attended (∃ c ∈ s.callers.set i c', c.waking = true) eventLoop s.loopThread.log := by
  have attended := attentive.attended
  rcases attentive.lawful c (List.mem_of_getElem? found) with ⟨call, rfl⟩ | waking | done
  · cases call with
    | queueInLoop cb =>
      cases moved
      have here : i < s.callers.length := (List.getElem?_eq_some_iff.mp found).1
      exact ⟨.inr (.inl rfl), attended.push ⟨_, List.mem_set here _, rfl⟩ rfl⟩
    | quit =>
      cases moved
      refine ⟨.inr (.inl rfl), (attended.setQuit true).mono ?_⟩
      exact exists_mem_set found Bool.false_ne_true
  · obtain ⟨_, pushed⟩ := c
    cases waking
    cases moved
    exact ⟨.inr (.inr rfl), attended.write _ rfl⟩
  · obtain ⟨_, pushed⟩ := c
    cases done
    cases moved

theorem step_attentive (s : LoopSystem Functor) (e : LoopEvent Functor) (s' : LoopSystem Functor)
    (taken : s.step e = some s') (attentive : Attentive s) : Attentive s' := by
  cases e with
  | call c =>
    cases taken
    constructor
    case follows => exact attentive.follows
    case lawful =>
      have lawful : (Caller.ofCall c).Lawful := .inl ⟨c, rfl⟩
      exact List.forall_mem_append.mpr ⟨attentive.lawful, List.forall_mem_singleton.mpr lawful⟩
    case attended =>
      apply attentive.attended.mono
      rintro ⟨c', member, waking⟩
      exact ⟨c', List.mem_append_left _ member, waking⟩
  | caller i =>
    simp only [LoopSystem.step, Option.bind_eq_bind, Option.bind_eq_some_iff] at taken
    obtain ⟨c, found, ⟨c', eventLoop⟩, moved, equal⟩ := taken
    cases equal
    obtain ⟨lawful, attended⟩ := attentive.step_caller found moved
    constructor
    case follows => exact attentive.follows
    case lawful => exact forall_mem_set attentive.lawful lawful
    case attended => exact attended
  | loopThread choice =>
    simp only [LoopSystem.step, Option.bind_eq_bind, Option.bind_eq_some_iff] at taken
    obtain ⟨⟨t, eventLoop⟩, moved, equal⟩ := taken
    cases equal
    have follows := Thread.step_ensures loop_loops moved attentive.follows
    constructor
    case follows => exact follows
    case lawful => exact attentive.lawful
    case attended =>
      rcases Thread.step_cases moved with ⟨_, _, _, _, rfl, rfl⟩ | ⟨o, k, r, _, executed, rfl⟩
      · exact attentive.attended
      · exact attentive.attended.exec executed (follows.now fun _ _ => LoopHead.sound)

theorem Attentive.start : Attentive ({} : LoopSystem Functor) where
  follows := .inl ⟨rfl, rfl⟩
  lawful := nofun
  attended := ⟨nofun, rfl, rfl, fun pending => absurd rfl pending⟩

/-- In `poll`, the loop thread has called everything that it took. -/
theorem Attentive.polling {s : LoopSystem Functor} (attentive : Attentive s)
    (polling : s.polling = true) :
    s.loopThread.log.phase = .top ∧ s.loopThread.log.called = s.loopThread.log.taken := by
  obtain ⟨eventLoop, callers, ⟨prog, log⟩⟩ := s
  have real : log.phase ≠ .misled := attentive.attended.real
  have follows := attentive.follows
  unfold LoopSystem.polling at polling
  split at polling
  next k code =>
    dsimp only at code follows ⊢
    subst code
    obtain ⟨sound, next⟩ := follows
    have top : log.phase = .top :=
      LoopOp.fits_of_sound real ((next []).now fun _ _ => LoopHead.sound)
    refine ⟨top, ?_⟩
    simpa [LoopLog.Sound, top] using sound
  next => cases polling

/-- For every interleaving of the loop thread with any number of other threads, and whatever
the callbacks and functors queue: the executed functors are the first ones that were
pushed, in this order, before those in the hands of the loop thread and the pending
ones. While the loop thread waits in `poll`, nothing is in its hands, and if functors
are pending, then the eventfd is readable or some thread is between its push and its
wakeup. -/
theorem functors_in_order_none_stranded (es : List (LoopEvent Functor)) (s : LoopSystem Functor)
    (reached : run LoopSystem.step {} es = some s) :
    (∃ inHand, s.eventLoop.pushed = s.executed ++ inHand ++ s.eventLoop.pendingFunctors ∧
      (s.polling = true → inHand = [])) ∧
      (s.polling = true → s.eventLoop.pendingFunctors ≠ [] →
        0 < s.eventLoop.wakeupFd ∨ ∃ c ∈ s.callers, c.waking = true) := by
  have attentive : Attentive s :=
    run_invariant LoopSystem.step Attentive step_attentive {} s es reached .start
  constructor
  · have sound := attentive.follows.now fun _ _ => LoopHead.sound
    obtain ⟨inHand, taken⟩ := sound.called_prefix_taken attentive.attended.real
    refine ⟨inHand, ?_, ?_⟩
    · rw [attentive.attended.pushed, ← taken]
      rfl
    · intro polling
      rw [(attentive.polling polling).2] at taken
      exact List.append_right_eq_self.mp taken
  · intro polling pending
    obtain ⟨top, _⟩ := attentive.polling polling
    rcases attentive.attended.woken pending with readable | owed | attending
    · exact .inl readable
    · exact .inr owed
    · simp [Phase.attending, top] at attending

/-- Another thread queues the functor 1 while the loop thread polls. The functor queues another
one, and the loop thread polls again. -/
def requeued : List (LoopEvent Nat) :=
  let goesOn : LoopEvent Nat := .loopThread {}
  [goesOn, goesOn, goesOn, goesOn, .call (.queueInLoop 1), .caller 0, .caller 0,
    .loopThread { activeChannels := [.wakeupChannel] }, goesOn, goesOn, goesOn,
    .loopThread { calls := [.queueInLoop 2] }, goesOn, goesOn, goesOn, goesOn, goesOn, goesOn]

theorem functors_in_order_none_stranded_requeued : ∃ s, run LoopSystem.step {} requeued = some s ∧
    s.polling = true ∧ s.executed = [1] ∧ s.eventLoop.pendingFunctors = [2] ∧
      s.eventLoop.pushed = [1, 2] ∧
      (0 < s.eventLoop.wakeupFd ∨ ∃ c ∈ s.callers, c.waking = true) := by
  have ran : (run LoopSystem.step {} requeued).map (fun s => (s.polling, s.executed,
      s.eventLoop.pendingFunctors)) = some (true, [1], [2]) := by
    decide +kernel
  obtain ⟨s, reached, ends⟩ := Option.map_eq_some_iff.mp ran
  obtain ⟨polling, executed, pending⟩ : s.polling = true ∧ s.executed = [1] ∧
      s.eventLoop.pendingFunctors = [2] := by
    simpa using ends
  obtain ⟨⟨inHand, pushed, none⟩, woken⟩ := functors_in_order_none_stranded requeued s reached
  refine ⟨s, reached, polling, executed, pending, ?_, woken polling (by simp [pending])⟩
  rw [pushed, none polling, executed, pending]
  rfl

end VllmRoute.Network
