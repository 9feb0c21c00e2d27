import Mathlib.Data.List.Basic
import Mathlib.Data.Nat.Cast.Basic

/-!
# Runs of a partial step function

A system is a step function `σ → ε → Option σ`: an event that is not enabled
has no successor. A run is a finite event list, and an invariant of the steps
is an invariant of the runs.
-/
namespace VllmRoute.Lib

variable {σ ε : Type*}

/-- The state a list of events leads to, when each of them is enabled. -/
def run (step : σ → ε → Option σ) : σ → List ε → Option σ
  | s, [] => some s
  | s, e :: es => (step s e).bind fun s' => run step s' es

/-- Every transition of the run meets `ok`. -/
def Along (step : σ → ε → Option σ) (ok : σ → ε → σ → Prop) : σ → List ε → Prop
  | _, [] => True
  | s, e :: es => ∀ s', step s e = some s' → ok s e s' ∧ Along step ok s' es

@[simp] theorem run_nil (step : σ → ε → Option σ) (s : σ) : run step s [] = some s := rfl

theorem run_cons (step : σ → ε → Option σ) (s : σ) (e : ε) (es : List ε) :
    run step s (e :: es) = (step s e).bind fun s' => run step s' es := rfl

theorem run_cons_iff (step : σ → ε → Option σ) (s t : σ) (e : ε) (es : List ε) :
    run step s (e :: es) = some t ↔ ∃ s', step s e = some s' ∧ run step s' es = some t := by
  simp only [run_cons, Option.bind_eq_some_iff]

theorem run_append (step : σ → ε → Option σ) (s : σ) (es fs : List ε) :
    run step s (es ++ fs) = (run step s es).bind fun s' => run step s' fs := by
  induction es generalizing s with
  | nil => rfl
  | cons e es ih =>
    simp only [List.cons_append, run_cons]
    cases step s e with
    | none => rfl
    | some s' => exact ih s'

/-- The invariant rule: what one admitted step preserves, an admitted run preserves. -/
theorem run_invariant_along (step : σ → ε → Option σ) (ok : σ → ε → σ → Prop)
    (inv : σ → Prop)
    (preserved : ∀ s e s', step s e = some s' → ok s e s' → inv s → inv s')
    (s t : σ) (es : List ε) (returned : run step s es = some t)
    (admitted : Along step ok s es) (initial : inv s) : inv t := by
  induction es generalizing s with
  | nil => cases returned; exact initial
  | cons e es ih =>
    obtain ⟨s', taken, rest⟩ := (run_cons_iff step s t e es).mp returned
    obtain ⟨here, later⟩ := admitted s' taken
    exact ih s' rest later (preserved s e s' taken here initial)

theorem along_cons {step : σ → ε → Option σ} {ok : σ → ε → σ → Prop} {s t : σ} {e : ε}
    {es : List ε} (taken : step s e = some t) (here : ok s e t) (rest : Along step ok t es) :
    Along step ok s (e :: es) := by
  intro s' taken'
  obtain rfl : t = s' := Option.some.inj (taken.symm.trans taken')
  exact ⟨here, rest⟩

/-- The only successor of a state is checked, if there is one. -/
theorem along_cons_iff {step : σ → ε → Option σ} {ok : σ → ε → σ → Prop} {s t : σ} {e : ε}
    {es : List ε} (taken : step s e = some t) :
    ok s e t ∧ Along step ok t es ↔ Along step ok s (e :: es) :=
  ⟨fun both => along_cons taken both.1 both.2, fun along => along t taken⟩

theorem along_cons_none {step : σ → ε → Option σ} {ok : σ → ε → σ → Prop} {s : σ} {e : ε}
    (es : List ε) (stuck : step s e = none) : Along step ok s (e :: es) := by
  intro t taken
  cases stuck.symm.trans taken

instance decidableAlong (step : σ → ε → Option σ) (ok : σ → ε → σ → Prop)
    [decide : ∀ s e t, Decidable (ok s e t)] : (s : σ) → (es : List ε) →
      Decidable (Along step ok s es)
  | _, [] => isTrue trivial
  | s, e :: es => match next : step s e with
    | none => isTrue (along_cons_none es next)
    | some t =>
      have := decidableAlong step ok t es
      decidable_of_iff _ (along_cons_iff next)

theorem along_true (step : σ → ε → Option σ) (s : σ) (es : List ε) :
    Along step (fun _ _ _ => True) s es := by
  induction es generalizing s with
  | nil => trivial
  | cons e es ih => exact fun s' _ => ⟨trivial, ih s'⟩

/-- The invariant rule for runs without a side condition. -/
theorem run_invariant (step : σ → ε → Option σ) (inv : σ → Prop)
    (preserved : ∀ s e s', step s e = some s' → inv s → inv s')
    (s t : σ) (es : List ε) (returned : run step s es = some t) (initial : inv s) : inv t :=
  run_invariant_along step (fun _ _ _ => True) inv
    (fun s e s' taken _ => preserved s e s' taken) s t es returned (along_true step s es) initial

/-- A quantity that one kind of event raises by one, and no other moves, counts these. -/
theorem run_counts {μ : Type*} [AddCommMonoidWithOne μ] (step : σ → ε → Option σ)
    (inv : σ → Prop) (quantity : σ → μ) (counted : ε → Bool)
    (preserved : ∀ s e s', step s e = some s' → inv s → inv s')
    (raised : ∀ s e s', step s e = some s' → inv s →
      quantity s' = quantity s + if counted e then 1 else 0)
    (s t : σ) (es : List ε) (returned : run step s es = some t) (initial : inv s) :
    quantity t = quantity s + (es.countP counted : μ) := by
  induction es generalizing s with
  | nil => cases returned; simp
  | cons e es ih =>
    obtain ⟨s', taken, rest⟩ := (run_cons_iff step s t e es).mp returned
    rw [ih s' rest (preserved s e s' taken initial), raised s e s' taken initial, List.countP_cons,
      Nat.cast_add, add_assoc, Nat.cast_ite, Nat.cast_one, Nat.cast_zero,
      add_comm (if counted e then 1 else 0)]

/-- A condition on the events of a run is a condition along it. -/
theorem along_of_forall (step : σ → ε → Option σ) (ok : ε → Prop) (s : σ) (es : List ε)
    (all : ∀ e ∈ es, ok e) : Along step (fun _ e _ => ok e) s es := by
  induction es generalizing s with
  | nil => trivial
  | cons e es ih =>
    exact fun s' _ => ⟨all e (by simp), ih s' fun f member => all f (by simp [member])⟩

theorem Along.mono {step : σ → ε → Option σ} {ok ok' : σ → ε → σ → Prop} {s : σ} {es : List ε}
    (weaker : ∀ s e s', ok s e s' → ok' s e s') (along : Along step ok s es) :
    Along step ok' s es := by
  induction es generalizing s with
  | nil => trivial
  | cons e es ih =>
    intro s' taken
    obtain ⟨here, later⟩ := along s' taken
    exact ⟨weaker s e s' here, ih later⟩

theorem Along.and {step : σ → ε → Option σ} {ok ok' : σ → ε → σ → Prop} {s : σ} {es : List ε}
    (first : Along step ok s es) (second : Along step ok' s es) :
    Along step (fun s e s' => ok s e s' ∧ ok' s e s') s es := by
  induction es generalizing s with
  | nil => trivial
  | cons e es ih =>
    intro s' taken
    obtain ⟨here, later⟩ := first s' taken
    obtain ⟨here', later'⟩ := second s' taken
    exact ⟨⟨here, here'⟩, ih later later'⟩

/-- A family of conditions along a run is one condition along it. -/
theorem along_forall {ι : Type*} {step : σ → ε → Option σ} {p : ι → Prop}
    {ok : ι → σ → ε → σ → Prop} {s : σ} {es : List ε}
    (along : ∀ i, p i → Along step (ok i) s es) :
    Along step (fun s e s' => ∀ i, p i → ok i s e s') s es := by
  induction es generalizing s with
  | nil => trivial
  | cons e es ih =>
    intro s' taken
    exact ⟨fun i given => (along i given s' taken).1,
      ih fun i given => (along i given s' taken).2⟩

theorem along_append {step : σ → ε → Option σ} {ok : σ → ε → σ → Prop} {s : σ} {es fs : List ε}
    (first : Along step ok s es) (rest : ∀ t, run step s es = some t → Along step ok t fs) :
    Along step ok s (es ++ fs) := by
  induction es generalizing s with
  | nil => exact rest s rfl
  | cons e es ih =>
    intro s' taken
    obtain ⟨here, later⟩ := first s' taken
    exact ⟨here, ih later fun t ran => rest t ((run_cons_iff step s t e es).mpr ⟨s', taken, ran⟩)⟩

/-- The transitions of a run, each as the state before it and its event. -/
def history (step : σ → ε → Option σ) : σ → List ε → List (σ × ε)
  | _, [] => []
  | s, e :: es => (s, e) :: ((step s e).map fun s' => history step s' es).getD []

theorem history_cons (step : σ → ε → Option σ) (s s' : σ) (e : ε) (es : List ε)
    (taken : step s e = some s') :
    history step s (e :: es) = (s, e) :: history step s' es := by
  simp [history, taken]

theorem map_snd_history (step : σ → ε → Option σ) (s t : σ) (es : List ε)
    (returned : run step s es = some t) : (history step s es).map Prod.snd = es := by
  induction es generalizing s with
  | nil => rfl
  | cons e es ih =>
    obtain ⟨s', taken, rest⟩ := (run_cons_iff step s t e es).mp returned
    rw [history_cons step s s' e es taken, List.map_cons, ih s' rest]

/-- The invariant rule for properties of a state and of the run that led to it. -/
theorem run_history_invariant (step : σ → ε → Option σ) (ok : σ → ε → σ → Prop)
    (inv : List (σ × ε) → σ → Prop)
    (preserved : ∀ past s e s', step s e = some s' → ok s e s' → inv past s →
      inv (past ++ [(s, e)]) s')
    (past : List (σ × ε)) (s t : σ) (es : List ε) (returned : run step s es = some t)
    (admitted : Along step ok s es) (initial : inv past s) :
    inv (past ++ history step s es) t := by
  -- each step moves its transition from the run that is left into `past`
  induction es generalizing past s with
  | nil =>
    cases returned
    simpa [history] using initial
  | cons e es ih =>
    obtain ⟨s', taken, rest⟩ := (run_cons_iff step s t e es).mp returned
    obtain ⟨here, later⟩ := admitted s' taken
    have moved := ih (past ++ [(s, e)]) s' rest later (preserved past s e s' taken here initial)
    simpa [history_cons step s s' e es taken] using moved

end VllmRoute.Lib
