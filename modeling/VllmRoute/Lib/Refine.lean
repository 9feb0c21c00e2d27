import Mathlib.Data.List.Basic

/-!
# Refinement of a data type

The operations of an implementation return something and change the state, and
may fail. The specification is a total function on another type, which an
abstraction function relates to the states. If every operation does what the
specification does, wherever its precondition holds, then so does every sequence
of operations.
-/
namespace VllmRoute.Lib

variable {σ α ε ω : Type*}

/-- What a sequence of operations returns, and the state it leads to, if none of them fails. -/
def calls (step : σ → ε → Option (ω × σ)) : σ → List ε → Option (List ω × σ)
  | s, [] => some ([], s)
  | s, e :: es => do
    let (o, s') ← step s e
    let (os, t) ← calls step s' es
    return (o :: os, t)

/-- The same of the specification. -/
def callsOf (spec : α → ε → ω × α) : α → List ε → List ω × α
  | a, [] => ([], a)
  | a, e :: es =>
    let rest := callsOf spec (spec a e).2 es
    ((spec a e).1 :: rest.1, rest.2)

/-- Each operation is made where its precondition holds. -/
def Respects (step : σ → ε → Option (ω × σ)) (pre : σ → ε → Prop) : σ → List ε → Prop
  | _, [] => True
  | s, e :: es => pre s e ∧ ∀ o s', step s e = some (o, s') → Respects step pre s' es

/-- One operation: it does not fail, and it does what the specification does. -/
def Refines (step : σ → ε → Option (ω × σ)) (spec : α → ε → ω × α) (abs : σ → α) (s : σ) (e : ε) :
    Prop :=
  ∃ s', step s e = some ((spec (abs s) e).1, s') ∧ abs s' = (spec (abs s) e).2

variable {step : σ → ε → Option (ω × σ)} {spec : α → ε → ω × α} {abs : σ → α}
  {pre : σ → ε → Prop}

theorem respects_cons_iff (s : σ) (e : ε) (es : List ε) : Respects step pre s (e :: es) ↔
    pre s e ∧ ∀ r ∈ step s e, Respects step pre r.2 es := by
  constructor
  · rintro ⟨holds, later⟩
    exact ⟨holds, fun r taken => later r.1 r.2 taken⟩
  · rintro ⟨holds, later⟩
    exact ⟨holds, fun o s' taken => later (o, s') taken⟩

instance decidableRespects [∀ s e, Decidable (pre s e)] (s : σ) (es : List ε) :
    Decidable (Respects step pre s es) :=
  match es with
  | [] => isTrue trivial
  | e :: es =>
    match taken : step s e with
    | none => decidable_of_iff (pre s e) (by simp [respects_cons_iff, taken])
    | some r =>
      have := decidableRespects r.2 es
      decidable_of_iff (pre s e ∧ Respects step pre r.2 es) (by simp [respects_cons_iff, taken])

theorem calls_refine (each : ∀ s e, pre s e → Refines step spec abs s e) {s : σ} {es : List ε}
    (respects : Respects step pre s es) :
    ∃ t, calls step s es = some ((callsOf spec (abs s) es).1, t) ∧
      abs t = (callsOf spec (abs s) es).2 := by
  induction es generalizing s with
  | nil => exact ⟨s, rfl, rfl⟩
  | cons e es ih =>
    obtain ⟨holds, later⟩ := respects
    obtain ⟨s', taken, related⟩ := each s e holds
    obtain ⟨t, rest, ends⟩ := ih (later _ s' taken)
    rw [related] at rest ends
    refine ⟨t, ?_, ends⟩
    simp only [calls, taken, rest, Option.bind_eq_bind, Option.bind_some]
    rfl

end VllmRoute.Lib
