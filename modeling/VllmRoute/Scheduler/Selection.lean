import VllmRoute.Scheduler.Routing

/-!
# What a selection can do to the endpoints

The scan of `select_endpoint` visits any number of endpoints, and may visit one
object twice. Its whole effect is said once here, in `selectEndpoint_spec`: the
lazy transition out of `Open` on some objects, and one dispatch.
-/
namespace VllmRoute.Scheduler

/-- The effect of an availability test: nothing, or the transition when it is due. -/
def Touched (nowMs : Int) (before after : VllmEndpoint) : Prop :=
  after = before ∨
    (before.circuitState = .opened ∧ before.circuitOpenUntilMs ≤ nowMs ∧ after = reopen before)

/-- An endpoint that may be dispatched to. -/
structure Ready (ep : VllmEndpoint) : Prop where
  admits : (ep.circuitState = .closed ∧ ep.healthy = true) ∨
    (ep.circuitState = .halfOpen ∧ ep.halfOpenInflight ≤ 0)
  capacity : ep.inflight < ep.maxConcurrency

theorem Touched.refl (nowMs : Int) (ep : VllmEndpoint) : Touched nowMs ep ep := Or.inl rfl

theorem Touched.trans {nowMs : Int} {a b c : VllmEndpoint}
    (first : Touched nowMs a b) (second : Touched nowMs b c) : Touched nowMs a c := by
  rcases second with rfl | ⟨opened, due, rfl⟩
  · exact first
  · rcases first with rfl | ⟨_, _, rfl⟩
    · exact Or.inr ⟨opened, due, rfl⟩
    · simp [reopen] at opened

/-- A ready endpoint is not `Open`, so no later test of the scan changes it. -/
theorem Ready.touched_eq {nowMs : Int} {ep after : VllmEndpoint}
    (ready : Ready ep) (touched : Touched nowMs ep after) : after = ep := by
  rcases touched with same | ⟨opened, _, _⟩
  · exact same
  · rcases ready.admits with ⟨closed, _⟩ | ⟨half, _⟩
    · rw [opened] at closed; cases closed
    · rw [opened] at half; cases half

theorem endpointAvailableLocked_touched (ep : VllmEndpoint) (nowMs : Int) :
    Touched nowMs ep (endpointAvailableLocked ep nowMs).2 := by
  unfold endpointAvailableLocked
  split
  next opened =>
    split
    next due => exact Or.inr ⟨opened, due, rfl⟩
    · exact Touched.refl nowMs ep
  · exact Touched.refl nowMs ep

private theorem ready_of_passesTests (ep : VllmEndpoint) (shut : ep.circuitState ≠ .opened)
    (passes : passesTests ep = true) : Ready ep := by
  unfold passesTests at passes
  split at passes
  · cases passes
  next idle =>
    split at passes
    · cases passes
    next sound =>
      split at passes
      · cases passes
      next room =>
        refine ⟨?_, by omega⟩
        -- the health flag counts in `Closed` only, the probe count in `HalfOpen` only
        cases state : ep.circuitState with
        | closed => left; simpa [state] using sound
        | opened => exact absurd state shut
        | halfOpen => right; simpa [state] using idle

theorem endpointAvailableLocked_ready (ep : VllmEndpoint) (nowMs : Int)
    (available : (endpointAvailableLocked ep nowMs).1 = true) :
    Ready (endpointAvailableLocked ep nowMs).2 := by
  unfold endpointAvailableLocked at available ⊢
  split at available
  next opened =>
    split at available
    next due =>
      rw [if_pos opened, if_pos due]
      exact ready_of_passesTests (reopen ep) (by simp [reopen]) available
    · cases available
  next shut =>
    rw [if_neg shut]
    exact ready_of_passesTests ep shut available

/-! ### The test of an endpoint -/

/-- An object as the scan leaves it: tested when it supports the request. -/
def tested (req : InferenceRequest) (nowMs : Int) (ep : VllmEndpoint) : VllmEndpoint :=
  if endpointSupportsRequest ep req then (endpointAvailableLocked ep nowMs).2 else ep

section Test

variable (req : InferenceRequest) (nowMs : Int)

/-- What the test writes. -/
theorem tested_eq (ep : VllmEndpoint) : tested req nowMs ep =
    if endpointSupportsRequest ep req = true ∧ ep.circuitState = .opened ∧
      ep.circuitOpenUntilMs ≤ nowMs then reopen ep else ep := by
  unfold tested endpointAvailableLocked
  by_cases supported : endpointSupportsRequest ep req = true
  · by_cases opened : ep.circuitState = .opened
    · by_cases due : nowMs ≥ ep.circuitOpenUntilMs <;> simp [supported, opened, due]
    · simp [supported, opened]
  · simp [supported]

/-- The configured fields are not written. -/
theorem tested_config (ep : VllmEndpoint) :
    (tested req nowMs ep).servedModel = ep.servedModel ∧
    (tested req nowMs ep).logicalModels = ep.logicalModels ∧
    (tested req nowMs ep).role = ep.role ∧
    (tested req nowMs ep).maxContextLen = ep.maxContextLen := by
  rw [tested_eq]
  split <;> exact ⟨rfl, rfl, rfl, rfl⟩

/-- A second visit of the scan changes nothing. -/
theorem tested_tested (ep : VllmEndpoint) :
    tested req nowMs (tested req nowMs ep) = tested req nowMs ep := by
  unfold tested endpointAvailableLocked
  by_cases supported : endpointSupportsRequest ep req = true
  · by_cases opened : ep.circuitState = .opened
    · by_cases due : nowMs ≥ ep.circuitOpenUntilMs
      · simp [supported, opened, due, reopen]
      · simp [supported, opened, due]
    · simp [supported, opened]
  · simp [supported]

/-- The tests that come before the preference: the models, the availability, and the length
of the context. -/
def eligible (ep : VllmEndpoint) : Bool :=
  endpointSupportsRequest ep req && (endpointAvailableLocked ep nowMs).1 &&
    !(ep.maxContextLen > 0 && estimatePromptTokens req > ep.maxContextLen)

theorem tested_touched (ep : VllmEndpoint) : Touched nowMs ep (tested req nowMs ep) := by
  unfold tested
  split
  · exact endpointAvailableLocked_touched ep nowMs
  · exact Touched.refl nowMs ep

theorem tested_ready (ep : VllmEndpoint) (passes : eligible req nowMs ep = true) :
    Ready (tested req nowMs ep) := by
  simp only [eligible, Bool.and_eq_true] at passes
  obtain ⟨⟨supported, available⟩, _⟩ := passes
  rw [tested, if_pos supported]
  exact endpointAvailableLocked_ready ep nowMs available

end Test

/-! ### The selection loop -/

/-- One iteration: the test is written, and an eligible endpoint is compared. -/
theorem scanEndpoint_eq (req : InferenceRequest) (threshold nowMs : Int) (scan : Scan) (id : Nat) :
    scanEndpoint req threshold nowMs scan id =
      let written := { scan with
        heap := Function.update scan.heap id (tested req nowMs (scan.heap id)) }
      if eligible req nowMs (scan.heap id) then scanCandidate req threshold written id
      else written := by
  have context := (tested_config req nowMs (scan.heap id)).2.2.2
  unfold scanEndpoint
  cases supported : endpointSupportsRequest (scan.heap id) req with
  | false => simp [eligible, tested, supported]
  | true =>
    simp only [tested, supported, if_true] at context
    cases available : (endpointAvailableLocked (scan.heap id) nowMs).1 with
    | false => simp [eligible, tested, supported, available]
    | true =>
      simp only [Bool.not_true, Bool.false_eq_true, if_false, available, eligible, supported,
        tested, if_true, context, Bool.true_and]
      generalize (decide ((scan.heap id).maxContextLen > 0) &&
        decide (estimatePromptTokens req > (scan.heap id).maxContextLen)) = tooLong
      cases tooLong <;> simp

/-- Loop invariant of the scan, from the heap it started on. -/
structure ScanOk (nowMs : Int) (endpoints : List Nat) (heap : Heap) (scan : Scan) :
    Prop where
  touched : ∀ id, Touched nowMs (heap id) (scan.heap id)
  ready : ∀ id, scan.best = some id → id ∈ endpoints ∧ Ready (scan.heap id)

theorem scanCandidate_heap (req : InferenceRequest) (threshold : Int) (scan : Scan)
    (id : Nat) : (scanCandidate req threshold scan id).heap = scan.heap := by
  unfold scanCandidate
  dsimp only
  split
  · rfl
  · split
    · rfl
    · split <;> split <;> try rfl
      all_goals split <;> rfl

/-- The winner of an iteration is the old winner or the candidate itself. -/
theorem scanCandidate_best (req : InferenceRequest) (threshold : Int) (scan : Scan)
    (id best : Nat) (chosen : (scanCandidate req threshold scan id).best = some best) :
    scan.best = some best ∨ best = id := by
  unfold scanCandidate at chosen
  dsimp only at chosen
  split at chosen
  · exact Or.inl chosen
  · split at chosen
    · exact Or.inl chosen
    · split at chosen <;> split at chosen <;> simp_all
      all_goals split at chosen <;> simp_all

theorem scanEndpoint_ok (req : InferenceRequest) (threshold nowMs : Int)
    (endpoints : List Nat) (heap : Heap) (scan : Scan) (id : Nat)
    (listed : id ∈ endpoints) (ok : ScanOk nowMs endpoints heap scan) :
    ScanOk nowMs endpoints heap (scanEndpoint req threshold nowMs scan id) := by
  have moved := tested_touched req nowMs (scan.heap id)
  -- the test alone keeps the invariant, and does not change the winner so far
  have written : ScanOk nowMs endpoints heap
      { scan with heap := Function.update scan.heap id (tested req nowMs (scan.heap id)) } := by
    constructor
    · intro other
      by_cases same : other = id
      · subst same
        simpa using (ok.touched other).trans moved
      · simpa [same] using ok.touched other
    · intro best chosen
      obtain ⟨member, ready⟩ := ok.ready best chosen
      refine ⟨member, ?_⟩
      by_cases same : best = id
      · subst same
        simpa [ready.touched_eq moved] using ready
      · simpa [same] using ready
  rw [scanEndpoint_eq]
  dsimp only
  split
  next passes =>
    constructor
    · rw [scanCandidate_heap]
      exact written.touched
    · intro best chosen
      rw [scanCandidate_heap]
      rcases scanCandidate_best _ _ _ _ _ chosen with old | rfl
      · exact written.ready best old
      · exact ⟨listed, by simpa using tested_ready req nowMs _ passes⟩
  · exact written

theorem scan_ok (req : InferenceRequest) (threshold nowMs : Int) (endpoints : List Nat)
    (heap : Heap) :
    ScanOk nowMs endpoints heap
      (endpoints.foldl (scanEndpoint req threshold nowMs) { heap := heap }) := by
  -- the loop over `endpoints`, from any point of it
  have loop (rest : List Nat) (scan : Scan) (within : rest ⊆ endpoints)
      (ok : ScanOk nowMs endpoints heap scan) :
      ScanOk nowMs endpoints heap (rest.foldl (scanEndpoint req threshold nowMs) scan) := by
    induction rest generalizing scan with
    | nil => exact ok
    | cons id rest ih =>
      have listed : id ∈ endpoints := within (by simp)
      exact ih _ (fun other member => within (by simp [member]))
        (scanEndpoint_ok req threshold nowMs endpoints heap scan id listed ok)
  apply loop endpoints _ (fun _ member => member)
  exact ⟨fun id => Touched.refl nowMs (heap id), by simp⟩

theorem scanEndpoint_heap (req : InferenceRequest) (threshold nowMs : Int) (scan : Scan)
    (id : Nat) : (scanEndpoint req threshold nowMs scan id).heap =
      Function.update scan.heap id (tested req nowMs (scan.heap id)) := by
  rw [scanEndpoint_eq]
  dsimp only
  split
  · rw [scanCandidate_heap]
  · rfl

/-- What the scan makes of each object, however often it is listed. -/
theorem scan_heap (req : InferenceRequest) (threshold nowMs : Int) (endpoints : List Nat)
    (scan : Scan) (id : Nat) :
    (endpoints.foldl (scanEndpoint req threshold nowMs) scan).heap id =
      if id ∈ endpoints then tested req nowMs (scan.heap id) else scan.heap id := by
  induction endpoints generalizing scan with
  | nil => simp
  | cons first rest ih =>
    rw [List.foldl_cons, ih, scanEndpoint_heap]
    by_cases same : id = first
    · -- the object may be listed again in `rest`
      subst same
      simp [tested_tested]
    · simp [same]

/-- The endpoint objects after `select_endpoint`. -/
theorem selectEndpoint_after (req : InferenceRequest) (threshold nowMs : Int)
    (endpoints : List Nat) (heap : Heap) (id : Nat) :
    (selectEndpoint req threshold nowMs endpoints heap).2 id =
      let scanned := if id ∈ endpoints then tested req nowMs (heap id) else heap id
      if (selectEndpoint req threshold nowMs endpoints heap).1 = some id then dispatch scanned
      else scanned := by
  have scanned := scan_heap req threshold nowMs endpoints { heap := heap } id
  dsimp only at scanned ⊢
  rw [← scanned]
  unfold selectEndpoint
  generalize endpoints.foldl (scanEndpoint req threshold nowMs) { heap := heap } = scan
  cases chosen : scan.best with
  | none => simp [chosen]
  | some best =>
    by_cases same : id = best
    · subst same
      simp [chosen]
    · simp [chosen, same, Ne.symm same]

theorem selectEndpoint_heap (req : InferenceRequest) (threshold nowMs : Int)
    (endpoints : List Nat) (heap : Heap) (id : Nat) (listed : id ∈ endpoints) :
    (selectEndpoint req threshold nowMs endpoints heap).2 id = tested req nowMs (heap id) ∨
      (selectEndpoint req threshold nowMs endpoints heap).2 id =
        dispatch (tested req nowMs (heap id)) := by
  rw [selectEndpoint_after]
  simp only [if_pos listed]
  split
  · exact Or.inr rfl
  · exact Or.inl rfl

/-- The effect of `select_endpoint`: due transitions, then the dispatch of the
winner, which was ready at that moment. -/
theorem selectEndpoint_spec (req : InferenceRequest) (threshold nowMs : Int)
    (endpoints : List Nat) (heap after : Heap) (chosen : Option Nat)
    (returned : selectEndpoint req threshold nowMs endpoints heap = (chosen, after)) :
    ∃ scanned : Heap, (∀ id, Touched nowMs (heap id) (scanned id)) ∧
      ((chosen = none ∧ after = scanned) ∨
        ∃ id ∈ endpoints, chosen = some id ∧ Ready (scanned id) ∧
          after = Function.update scanned id (dispatch (scanned id))) := by
  have ok := scan_ok req threshold nowMs endpoints heap
  unfold selectEndpoint at returned
  generalize endpoints.foldl (scanEndpoint req threshold nowMs) { heap := heap } = scan
    at ok returned
  refine ⟨scan.heap, ok.touched, ?_⟩
  cases best : scan.best with
  | none =>
    simp only [best, Prod.mk.injEq] at returned
    exact Or.inl ⟨returned.1.symm, returned.2.symm⟩
  | some id =>
    simp only [best, Prod.mk.injEq] at returned
    obtain ⟨listed, ready⟩ := ok.ready id best
    exact Or.inr ⟨id, listed, returned.1.symm, ready, returned.2.symm⟩

end VllmRoute.Scheduler
