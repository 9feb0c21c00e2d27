import VllmRoute.Access.Connections
import VllmRoute.Lib.Run

/-!
# Distinct reply addresses

Open connections have different addresses in every run in which openings do not
overlap and no connection stays open while the counter goes round.
-/
namespace VllmRoute.Access

open Lib

namespace Listener

/-- The number of values that `counter_port` takes. -/
def portRange : Nat := 57536

/-- A new connection finds no other opening in progress, and no connection that has been
open for a whole round. -/
def Spaced (s : Listener) (e : ConnectionEvent) (_ : Listener) : Prop :=
  e = .fetchAdd → s.openings = [] ∧ ∀ c ∈ s.connections, s.opened < c.serial + portRange

/-- The counter after so many openings, with at most one of them in progress. -/
def Counts (counterPort : Int) (opened : Nat) : List Opening → Prop
  | [] => counterPort = 8000 + (opened % portRange : Nat)
  | [.added] => ∃ before, opened = before + 1 ∧ counterPort = 8001 + (before % portRange : Nat)
  | [.exhausted] => opened % portRange = 0
  | _ => False

structure Spread (s : Listener) : Prop where
  counts : Counts s.counterPort s.opened s.openings
  ids : ∀ c ∈ s.connections, c.serial < s.opened ∧ c.comId = 8000 + (c.serial % portRange : Nat)
  distinct : s.connections.Pairwise fun a b => a.comId ≠ b.comId

/-- The three ways of a single opening in progress. -/
theorem Counts.cases {counterPort : Int} {opened : Nat} {openings : List Opening}
    (counts : Counts counterPort opened openings) :
    openings = [] ∨ openings = [.added] ∨ openings = [.exhausted] := by
  match openings, counts with
  | [], _ => simp
  | [.added], _ => simp
  | [.exhausted], _ => simp

/-- The opening that goes on is the only one. -/
theorem Counts.single {counterPort : Int} {opened : Nat} {openings : List Opening}
    (counts : Counts counterPort opened openings) {i : Nat} {o : Opening}
    (here : openings[i]? = some o) : openings = [o] ∧ i = 0 := by
  rcases counts.cases with rfl | rfl | rfl
  · simp at here
  all_goals
    cases i with
    | zero => simpa using here
    | succ i => simp at here

theorem spread_fetchAdd (s : Listener) (spread : s.Spread) (quiet : s.openings = [])
    (recent : ∀ c ∈ s.connections, s.opened < c.serial + portRange) :
    Spread { s with
      counterPort := s.counterPort + 1
      opened := s.opened + 1
      openings := s.openings ++ [.added]
      connections := s.connections ++ [⟨s.opened, s.counterPort⟩] } := by
  obtain ⟨counts, ids, distinct⟩ := spread
  rw [quiet] at counts ⊢
  have counter : s.counterPort = 8000 + (s.opened % portRange : Nat) := counts
  refine ⟨⟨s.opened, rfl, ?_⟩, ?_, ?_⟩
  · show s.counterPort + 1 = _
    omega
  · intro c member
    rcases List.mem_append.mp member with old | new
    · obtain ⟨earlier, id⟩ := ids c old
      exact ⟨Nat.lt_succ_of_lt earlier, id⟩
    · rw [List.mem_singleton] at new
      subst new
      exact ⟨Nat.lt_succ_self _, counter⟩
  · refine List.pairwise_append.mpr ⟨distinct, List.pairwise_singleton _ _, ?_⟩
    intro old member new last
    rw [List.mem_singleton] at last
    subst last
    obtain ⟨earlier, id⟩ := ids old member
    have bound := recent old member
    -- less than a round apart, so the two residues differ
    simp only [id, counter, portRange] at bound ⊢
    omega

theorem step_spread (s s' : Listener) (e : ConnectionEvent) (taken : s.step e = some s')
    (spaced : s.Spaced e s') (spread : s.Spread) : s'.Spread := by
  cases e with
  | fetchAdd =>
    obtain ⟨quiet, recent⟩ := spaced rfl
    cases taken
    exact spread_fetchAdd s spread quiet recent
  | test i =>
    obtain ⟨counts, ids, distinct⟩ := spread
    simp only [step] at taken
    split at taken
    next here =>
      obtain ⟨added, rfl⟩ := counts.single here
      rw [added] at counts
      obtain ⟨before, next, counter⟩ := counts
      split at taken
      next beyond =>
        -- only after a whole round of openings
        cases taken
        refine ⟨?_, ids, distinct⟩
        rw [added]
        simp only [List.set_cons_zero, Counts, portRange] at beyond counter ⊢
        omega
      next within =>
        cases taken
        refine ⟨?_, ids, distinct⟩
        rw [added]
        simp only [List.eraseIdx_cons_zero, Counts, portRange] at within counter ⊢
        omega
    · cases taken
  | store i =>
    obtain ⟨counts, ids, distinct⟩ := spread
    simp only [step] at taken
    split at taken
    next here =>
      obtain ⟨exhausted, rfl⟩ := counts.single here
      rw [exhausted] at counts
      have round : s.opened % portRange = 0 := counts
      cases taken
      refine ⟨?_, ids, distinct⟩
      rw [exhausted]
      simp [Counts, round]
    · cases taken
  | close i =>
    obtain ⟨counts, ids, distinct⟩ := spread
    simp only [step] at taken
    split at taken
    · cases taken
      have sub := List.eraseIdx_sublist s.connections i
      exact ⟨counts, fun c member => ids c (sub.subset member), distinct.sublist sub⟩
    · cases taken

/-- In every run of the listener in which openings do not overlap and no connection is open
for a whole round of the counter, the connections that are open at the same time
have different addresses. -/
theorem addresses_distinct_of_spaced (events : List ConnectionEvent) (s : Listener)
    (reached : run step {} events = some s) (spaced : Along step Spaced {} events) :
    s.connections.Pairwise fun a b =>
      a.comId ≠ b.comId ∧ sessionUrl a.comId ≠ sessionUrl b.comId := by
  have initial : Spread {} := ⟨rfl, by simp, List.Pairwise.nil⟩
  have spread := run_invariant_along step Spaced Spread
    (fun s e s' taken spaced => step_spread s s' e taken spaced) {} s events reached spaced initial
  exact spread.distinct.imp fun different =>
    ⟨different, fun same => different (sessionUrl_injective same)⟩

/-- Two connections, one after the other. -/
theorem addresses_distinct_of_spaced_two : ∃ s : Listener,
    run step {} [.fetchAdd, .test 0, .fetchAdd, .test 0] = some s ∧ s.connections.length = 2 ∧
      s.connections.Pairwise fun a b =>
        a.comId ≠ b.comId ∧ sessionUrl a.comId ≠ sessionUrl b.comId := by
  obtain ⟨s, reached, two⟩ : ∃ s : Listener,
      run step {} [.fetchAdd, .test 0, .fetchAdd, .test 0] = some s ∧ s.connections.length = 2 :=
    ⟨_, rfl, rfl⟩
  refine ⟨s, reached, two, addresses_distinct_of_spaced _ s reached ?_⟩
  rintro _ ⟨⟩
  refine ⟨fun _ => ⟨rfl, by simp⟩, ?_⟩
  rintro _ ⟨⟩
  refine ⟨nofun, ?_⟩
  rintro _ ⟨⟩
  refine ⟨fun _ => ⟨rfl, by decide⟩, ?_⟩
  rintro _ ⟨⟩
  exact ⟨nofun, trivial⟩

/-! ### Two IO threads at the end of the range -/

/-- A connection that is opened and closed. -/
def visit : List ConnectionEvent := [.fetchAdd, .test 0, .close 0]

theorem run_visits (n : Nat) (bound : n < portRange) :
    run step {} (List.replicate n visit).flatten =
      some { counterPort := 8000 + n, opened := n } := by
  induction n with
  | zero => rfl
  | succ n ih =>
    have within : ¬ (8000 + (n : Int) + 1 > 65535) := by
      unfold portRange at bound
      omega
    have last : run step { counterPort := 8000 + n, opened := n } visit =
        some { counterPort := 8000 + n + 1, opened := n + 1 } := by
      simp [visit, run, step, within]
    rw [List.replicate_succ', List.flatten_append, run_append, ih (Nat.lt_of_succ_lt bound)]
    simpa [Int.add_assoc] using last

/-- The connections up to the last value of the range, and then two threads that both find the
range exhausted: the second resets the counter after the first has already
taken a new value. -/
def lateReset : List ConnectionEvent :=
  (List.replicate 57535 visit).flatten ++
    [.fetchAdd, .fetchAdd, .test 0, .test 1, .store 0, .fetchAdd, .store 0, .test 0, .fetchAdd]

theorem late_reset_repeats_id : ∃ s : Listener, run step {} lateReset = some s ∧
    s.connections.map Connection.comId = [65535, 65536, 8000, 8000] ∧
    ¬ s.connections.Pairwise fun a b => a.comId ≠ b.comId := by
  obtain ⟨s, reached, ids⟩ : ∃ s : Listener,
      run step { counterPort := 8000 + (57535 : Nat), opened := 57535 }
        [.fetchAdd, .fetchAdd, .test 0, .test 1, .store 0, .fetchAdd, .store 0, .test 0,
          .fetchAdd] = some s ∧
      s.connections.map Connection.comId = [65535, 65536, 8000, 8000] := ⟨_, rfl, rfl⟩
  refine ⟨s, ?_, ids, fun distinct => ?_⟩
  · -- the connections before the last value leave nothing behind but the counter
    rw [lateReset, run_append, run_visits 57535 (by decide)]
    exact reached
  · have different := List.pairwise_map.mpr distinct
    rw [ids] at different
    revert different
    decide

end Listener

end VllmRoute.Access
