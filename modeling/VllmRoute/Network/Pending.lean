import VllmRoute.Network.Stages

/-!
# What the loops have yet to do

At each stage of a connection at most one functor is queued that moves it on, in
the loop that is to take the next step, and only an opened connection is among
the channels that a loop is handling.
-/
namespace VllmRoute.Network

namespace TcpServer

/-! ### Queued functors -/

/-- The functors that the loops have yet to call. -/
def queue (s : TcpServer) (i : Nat) : List LoopFunctor := (s.loops i).functors

/-- What is queued is what the stages ask for, and messages to connections that were opened. -/
structure Queued (loop : Nat → Nat) (stage : Nat → Stage) (queue : Nat → List LoopFunctor) :
    Prop where
  held : ∀ i n, (queue i).filter (·.holds n) = (stage n).duties n (loop n) i
  sends : ∀ i n message, .sendInLoop n message ∈ queue i →
    (stage n).callbacks ≠ [] ∧ i = loop n

namespace Queued

variable {loop : Nat → Nat} {stage : Nat → Stage} {queue : Nat → List LoopFunctor}
variable {n i : Nat} {f : LoopFunctor} {rest : List LoopFunctor} {st : Stage}

/-- The first functor of a loop that holds a connection is all that is queued for it. -/
theorem duty (queued : Queued loop stage queue) (front : queue i = f :: rest)
    (holds : f.holds n = true) : (stage n).duties n (loop n) i = [f] := by
  have mine := queued.held i n
  rw [front, List.filter_cons_of_pos holds] at mine
  cases at_ : stage n <;> rw [at_] at mine <;> simp only [Stage.duties] at mine ⊢ <;>
    first | (split at mine <;> simp_all) | simp at mine

/-- A connection that was opened stays so at the next stage, for the messages to it. -/
theorem sends_update (queued : Queued loop stage queue)
    (up : (stage n).callbacks ≠ [] → st.callbacks ≠ []) {j m : Nat} {message : Bytes}
    (member : .sendInLoop m message ∈ queue j) :
    (Function.update stage n st m).callbacks ≠ [] ∧ j = loop m := by
  obtain ⟨met, own⟩ := queued.sends j m message member
  refine ⟨?_, own⟩
  by_cases mine : m = n
  · subst mine
    rw [Function.update_self]
    exact up met
  · rwa [Function.update_of_ne mine]

/-- A connection without duties moves to another stage without duties. -/
theorem advance (queued : Queued loop stage queue) (idle : ∀ i, (stage n).duties n (loop n) i = [])
    (idle' : ∀ i, st.duties n (loop n) i = [])
    (up : (stage n).callbacks ≠ [] → st.callbacks ≠ []) :
    Queued loop (Function.update stage n st) queue := by
  constructor
  case held =>
    intro j m
    by_cases mine : m = n
    · subst mine
      rw [Function.update_self, queued.held, idle, idle']
    · rw [Function.update_of_ne mine, queued.held]
  case sends =>
    intro j m message member
    exact queued.sends_update up member

theorem holds_other {m : Nat} (holds : f.holds n = true) (other : m ≠ n) : f.holds m = false := by
  cases f <;> simp_all [LoopFunctor.holds, Ne.symm other]

theorem duties_elsewhere {j : Nat} (duty : st.duties n (loop n) i = [f]) (elsewhere : j ≠ i) :
    st.duties n (loop n) j = [] := by
  cases st <;> simp only [Stage.duties] at duty ⊢ <;> split at duty <;> simp_all

/-- The functor that is called was all there was to do for its connection. -/
theorem pop (queued : Queued loop stage queue) (front : queue i = f :: rest)
    (holds : f.holds n = true) (idle : ∀ i, st.duties n (loop n) i = [])
    (up : (stage n).callbacks ≠ [] → st.callbacks ≠ []) :
    Queued loop (Function.update stage n st) (Function.update queue i rest) := by
  have duty := queued.duty front holds
  constructor
  case held =>
    intro j m
    have before := queued.held j m
    by_cases mine : m = n
    · subst mine
      rw [Function.update_self, idle]
      by_cases own : j = i
      · subst own
        rw [front, List.filter_cons_of_pos holds, duty] at before
        rw [Function.update_self]
        exact (List.cons.inj before).2
      · rw [Function.update_of_ne own, before, duties_elsewhere duty own]
    · rw [Function.update_of_ne mine]
      by_cases own : j = i
      · subst own
        rw [front, List.filter_cons_of_neg (by simp [holds_other holds mine])] at before
        rw [Function.update_self, before]
      · rw [Function.update_of_ne own, before]
  case sends =>
    intro j m message member
    have earlier : .sendInLoop m message ∈ queue j := by
      by_cases own : j = i
      · subst own
        rw [Function.update_self] at member
        rw [front]
        exact List.mem_cons_of_mem f member
      · rwa [Function.update_of_ne own] at member
    exact queued.sends_update up earlier

theorem popSend {message : Bytes} (queued : Queued loop stage queue)
    (front : queue i = .sendInLoop n message :: rest) :
    Queued loop stage (Function.update queue i rest) := by
  constructor
  case held =>
    intro j m
    have before := queued.held j m
    by_cases own : j = i
    · subst own
      rw [front, List.filter_cons_of_neg (by simp [LoopFunctor.holds])] at before
      rw [Function.update_self, before]
    · rw [Function.update_of_ne own, before]
  case sends =>
    intro j m text member
    by_cases own : j = i
    · subst own
      rw [Function.update_self] at member
      exact queued.sends j m text (by rw [front]; exact List.mem_cons_of_mem _ member)
    · rw [Function.update_of_ne own] at member
      exact queued.sends j m text member

/-- A connection without duties moves on to a stage with one, which is queued. -/
theorem push (queued : Queued loop stage queue) (idle : ∀ i, (stage n).duties n (loop n) i = [])
    (holds : f.holds n = true)
    (duty : ∀ j, st.duties n (loop n) j = if j = i then [f] else [])
    (up : (stage n).callbacks ≠ [] → st.callbacks ≠ []) :
    Queued loop (Function.update stage n st) (Function.update queue i (queue i ++ [f])) := by
  constructor
  case held =>
    intro j m
    have before := queued.held j m
    by_cases mine : m = n
    · subst mine
      rw [idle] at before
      rw [Function.update_self, duty]
      by_cases own : j = i
      · subst own
        rw [Function.update_self, List.filter_append, before, if_pos rfl,
          List.filter_cons_of_pos holds, List.filter_nil, List.nil_append]
      · rw [Function.update_of_ne own, before, if_neg own]
    · rw [Function.update_of_ne mine]
      by_cases own : j = i
      · subst own
        rw [Function.update_self, List.filter_append, before,
          List.filter_cons_of_neg (by simp [holds_other holds mine]), List.filter_nil,
          List.append_nil]
      · rw [Function.update_of_ne own, before]
  case sends =>
    intro j m message member
    have earlier : .sendInLoop m message ∈ queue j := by
      by_cases own : j = i
      · subst own
        rw [Function.update_self, List.mem_append, List.mem_singleton] at member
        rcases member with there | rfl
        · exact there
        · simp [LoopFunctor.holds] at holds
      · rwa [Function.update_of_ne own] at member
    exact queued.sends_update up earlier

theorem pushSend {message : Bytes} (queued : Queued loop stage queue)
    (met : (stage n).callbacks ≠ []) :
    Queued loop stage (Function.update queue (loop n)
      (queue (loop n) ++ [.sendInLoop n message])) := by
  constructor
  case held =>
    intro j m
    have before := queued.held j m
    by_cases own : j = loop n
    · subst own
      rw [Function.update_self, List.filter_append, before,
        List.filter_cons_of_neg (by simp [LoopFunctor.holds]), List.filter_nil, List.append_nil]
    · rw [Function.update_of_ne own, before]
  case sends =>
    intro j m text member
    by_cases own : j = loop n
    · subst own
      rw [Function.update_self, List.mem_append, List.mem_singleton] at member
      rcases member with earlier | new
      · exact queued.sends _ m text earlier
      · cases new
        exact ⟨met, rfl⟩
    · rw [Function.update_of_ne own] at member
      exact queued.sends j m text member

end Queued

/-! ### Channels being handled -/

/-- The connections that a loop has yet to handle in this turn. -/
def handled : Turn → List (Nat × BitVec 32)
  | .handling activeChannels => activeChannels.filterMap fun
    | .channel n revents => some (n, revents)
    | .acceptChannel => none
  | .calling _ => []

/-- The kernel reports nothing but what a connection asks for, an error or a hang-up. -/
def Plain (revents : BitVec 32) : Prop :=
  revents &&& ~~~(pollIn ||| pollOut ||| pollErr ||| pollHup) = 0

structure Handling (loop : Nat → Nat) (stage : Nat → Stage) (turn : Nat → Turn) : Prop where
  opened : ∀ i n revents, (n, revents) ∈ handled (turn i) →
    stage n = .opened ∧ loop n = i ∧ Plain revents
  once : ∀ i, ((handled (turn i)).map Prod.fst).Nodup

namespace Handling

variable {loop : Nat → Nat} {stage : Nat → Stage} {turn : Nat → Turn} {n i : Nat} {st : Stage}

/-- A connection that no loop is about to handle moves to another stage. -/
theorem advance (handling : Handling loop stage turn)
    (unhandled : ∀ i revents, (n, revents) ∉ handled (turn i)) :
    Handling loop (Function.update stage n st) turn := by
  constructor
  case opened =>
    intro j m revents member
    have other : m ≠ n := by
      rintro rfl
      exact unhandled j revents member
    rw [Function.update_of_ne other]
    exact handling.opened j m revents member
  case once => exact handling.once

theorem advance_of_ne (handling : Handling loop stage turn) (other : stage n ≠ .opened) :
    Handling loop (Function.update stage n st) turn := by
  apply handling.advance
  intro j revents member
  exact other (handling.opened j n revents member).1

/-- A turn in which less is left to handle. -/
theorem setTurn (handling : Handling loop stage turn) {t : Turn}
    (fewer : (handled t).Sublist (handled (turn i))) :
    Handling loop stage (Function.update turn i t) := by
  constructor
  case opened =>
    intro j m revents member
    by_cases own : j = i
    · subst own
      rw [Function.update_self] at member
      exact handling.opened j m revents (fewer.subset member)
    · rw [Function.update_of_ne own] at member
      exact handling.opened j m revents member
  case once =>
    intro j
    by_cases own : j = i
    · subst own
      rw [Function.update_self]
      exact (handling.once j).sublist (fewer.map _)
    · rw [Function.update_of_ne own]
      exact handling.once j

end Handling

end TcpServer

end VllmRoute.Network
