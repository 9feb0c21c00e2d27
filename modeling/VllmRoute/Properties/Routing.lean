import VllmRoute.Lib.Best
import VllmRoute.Scheduler.Selection

/-!
# Which endpoint is selected

The selection loop is a running best under two keys, the place of the served
model in the fallback chain and the score. Each endpoint is judged as the
availability test leaves it, so the result can be said of the endpoints as they
were before the call.
-/
namespace VllmRoute.Scheduler

open Lib

section Selection

variable (req : InferenceRequest) (threshold nowMs : Int)

/-- An endpoint that the loop compares with the best one so far. -/
def candidate (ep : VllmEndpoint) : Bool :=
  eligible req nowMs ep && modelPreferenceRank ep req ≠ intMax

/-- A candidate that the loop may take. -/
def takes (ep : VllmEndpoint) : Bool := !(isDegradedEndpoint ep req && !req.allowDegrade)

/-- The score in a selection: that of the endpoint after the availability test. -/
def selectionScore (ep : VllmEndpoint) : Int :=
  endpointScore (tested req nowMs ep) req (isDegradedEndpoint ep req) threshold

/-! ### The test of an endpoint -/

@[simp]
theorem endpointSupportsRequest_tested (ep : VllmEndpoint) :
    endpointSupportsRequest (tested req nowMs ep) req = endpointSupportsRequest ep req := by
  obtain ⟨served, logical, _, _⟩ := tested_config req nowMs ep
  simp only [endpointSupportsRequest, served, logical]

@[simp]
theorem modelPreferenceRank_tested (ep : VllmEndpoint) :
    modelPreferenceRank (tested req nowMs ep) req = modelPreferenceRank ep req := by
  obtain ⟨served, logical, _, _⟩ := tested_config req nowMs ep
  simp only [modelPreferenceRank, served, logical]

@[simp]
theorem isDegradedEndpoint_tested (ep : VllmEndpoint) :
    isDegradedEndpoint (tested req nowMs ep) req = isDegradedEndpoint ep req := by
  obtain ⟨served, logical, role, _⟩ := tested_config req nowMs ep
  simp only [isDegradedEndpoint, served, logical, role]

/-- Asking twice gives the same answer. -/
theorem endpointAvailableLocked_tested (ep : VllmEndpoint)
    (supported : endpointSupportsRequest ep req = true) :
    (endpointAvailableLocked (tested req nowMs ep) nowMs).1 =
      (endpointAvailableLocked ep nowMs).1 := by
  rw [tested_eq]
  by_cases moved : ep.circuitState = .opened ∧ ep.circuitOpenUntilMs ≤ nowMs
  · simp [supported, moved, endpointAvailableLocked, reopen]
  · simp [moved]

theorem eligible_tested (ep : VllmEndpoint) :
    eligible req nowMs (tested req nowMs ep) = eligible req nowMs ep := by
  have context := (tested_config req nowMs ep).2.2.2
  cases supported : endpointSupportsRequest ep req with
  | false => simp [eligible, supported]
  | true =>
    simp [eligible, supported, context, endpointAvailableLocked_tested req nowMs ep supported]

/-! ### The loop -/

/-- The running best that the loop keeps, in terms of the endpoints before the call. -/
def better (heap : Heap) : Option Nat → Nat → Option Nat :=
  bestStep (fun id => takes req (heap id)) (fun id => modelPreferenceRank (heap id) req)
    (fun id => selectionScore req threshold nowMs (heap id))

/-- The rank and the score that the loop keeps are those of its best endpoint. -/
def Describes (heap : Heap) (scan : Scan) : Prop :=
  ∀ b, scan.best = some b → scan.bestRank = modelPreferenceRank (heap b) req ∧
    scan.bestScore = selectionScore req threshold nowMs (heap b)

variable {req threshold nowMs} {heap : Heap} {scan : Scan}

/-- The comparison of an endpoint that was just tested. -/
theorem Describes.scanCandidate (describes : Describes req threshold nowMs heap scan) (id : Nat)
    (here : scan.heap id = tested req nowMs (heap id))
    (known : modelPreferenceRank (heap id) req ≠ intMax) :
    Describes req threshold nowMs heap (scanCandidate req threshold scan id) ∧
      (Scheduler.scanCandidate req threshold scan id).best =
        better req threshold nowMs heap scan.best id := by
  obtain ⟨scanned, best, bestRank, bestScore⟩ := scan
  dsimp only at here
  have scored : endpointScore (tested req nowMs (heap id)) req
      (isDegradedEndpoint (heap id) req) threshold =
      selectionScore req threshold nowMs (heap id) := rfl
  simp only [Describes, Scheduler.scanCandidate, better, bestStep, here,
    modelPreferenceRank_tested, isDegradedEndpoint_tested, scored, if_neg known, takes]
  cases best with
  | none =>
    by_cases unusable : (isDegradedEndpoint (heap id) req && !req.allowDegrade) = true
    · simp [unusable]
    · simp [unusable]
  | some b =>
    obtain ⟨rank, score⟩ := describes b rfl
    dsimp only at rank score
    subst rank score
    rcases lt_trichotomy (modelPreferenceRank (heap b) req) (modelPreferenceRank (heap id) req)
      with higher | same | lower
    · simp [higher]
    · by_cases unusable : (isDegradedEndpoint (heap id) req && !req.allowDegrade) = true
      · simp [same, unusable]
      · by_cases ahead : selectionScore req threshold nowMs (heap b) <
          selectionScore req threshold nowMs (heap id)
        · simp [same, unusable, ahead]
        · simp [same, unusable, ahead]
    · by_cases unusable : (isDegradedEndpoint (heap id) req && !req.allowDegrade) = true
      · simp [lower, lower.not_gt, unusable]
      · simp [lower, lower.not_gt, unusable]

/-- The same for what the loop keeps, where the scan has written no more than its tests. -/
theorem Describes.scanEndpoint (describes : Describes req threshold nowMs heap scan) (id : Nat)
    (visited : tested req nowMs (scan.heap id) = tested req nowMs (heap id)) :
    Describes req threshold nowMs heap (scanEndpoint req threshold nowMs scan id) ∧
      (Scheduler.scanEndpoint req threshold nowMs scan id).best =
        if candidate req nowMs (heap id) then better req threshold nowMs heap scan.best id
        else scan.best := by
  -- the tests answer the same for the object as the scan finds it and as it was before
  have same : eligible req nowMs (scan.heap id) = eligible req nowMs (heap id) := by
    rw [← eligible_tested, visited, eligible_tested]
  rw [scanEndpoint_eq, same, visited]
  dsimp only
  cases passes : eligible req nowMs (heap id) with
  | false => exact ⟨describes, by simp [candidate, passes]⟩
  | true =>
    by_cases unknown : modelPreferenceRank (heap id) req = intMax
    · simp only [candidate, passes, unknown, Scheduler.scanCandidate, Function.update_self,
        modelPreferenceRank_tested]
      exact ⟨describes, by simp⟩
    · have known : candidate req nowMs (heap id) = true := by simp [candidate, passes, unknown]
      rw [if_pos rfl, if_pos known]
      have kept : Describes req threshold nowMs heap { scan with
          heap := Function.update scan.heap id (tested req nowMs (heap id)) } := describes
      exact kept.scanCandidate id (Function.update_self ..) unknown

/-- The whole loop: the candidates in list order, by the running best. -/
theorem Describes.loop (rest : List Nat) (describes : Describes req threshold nowMs heap scan)
    (visited : ∀ id, tested req nowMs (scan.heap id) = tested req nowMs (heap id)) :
    (rest.foldl (Scheduler.scanEndpoint req threshold nowMs) scan).best =
      (rest.filter fun id => candidate req nowMs (heap id)).foldl
        (better req threshold nowMs heap) scan.best := by
  induction rest generalizing scan with
  | nil => rfl
  | cons id rest ih =>
    obtain ⟨after, chosen⟩ := describes.scanEndpoint id (visited id)
    have still : ∀ other, tested req nowMs
        ((Scheduler.scanEndpoint req threshold nowMs scan id).heap other) =
          tested req nowMs (heap other) := by
      intro other
      rw [scanEndpoint_heap]
      by_cases same : other = id
      · subst same
        rw [Function.update_self, tested_tested, visited]
      · rw [Function.update_of_ne same, visited]
    rw [List.foldl_cons, ih after still, chosen, List.filter_cons]
    split <;> rfl

/-- The endpoint that `select_endpoint` returns. -/
theorem selectEndpoint_choice (req : InferenceRequest) (threshold nowMs : Int)
    (endpoints : List Nat) (heap : Heap) :
    (selectEndpoint req threshold nowMs endpoints heap).1 =
      (endpoints.filter fun id => candidate req nowMs (heap id)).foldl
        (better req threshold nowMs heap) none := by
  have found := Describes.loop endpoints
    (show Describes req threshold nowMs heap { heap := heap } from nofun) fun _ => rfl
  rw [← found]
  unfold selectEndpoint
  dsimp only
  split
  next best => exact best.symm
  next nothing => exact nothing.symm

variable (req threshold nowMs)

/-- The endpoint that is returned was a candidate that the loop may take. -/
theorem selectEndpoint_some (endpoints : List Nat) (heap : Heap) (id : Nat)
    (chosen : (selectEndpoint req threshold nowMs endpoints heap).1 = some id) :
    id ∈ endpoints ∧ eligible req nowMs (heap id) = true ∧ takes req (heap id) = true := by
  rw [selectEndpoint_choice] at chosen
  obtain ⟨before, after, listed, own, _⟩ := foldl_bestStep_some _ _ id chosen
  have member : id ∈ endpoints.filter fun id => candidate req nowMs (heap id) := by simp [listed]
  obtain ⟨member, passes⟩ := List.mem_filter.mp member
  exact ⟨member, (Bool.and_eq_true_iff.mp passes).1, own⟩

/-! ### Requests that may be degraded -/

/-- An eligible endpoint of the least rank, with the highest score of that rank. -/
def optimal (endpoints : List Nat) (heap : Heap) (id : Nat) : Bool :=
  eligible req nowMs (heap id) && endpoints.all fun other =>
    !eligible req nowMs (heap other) ||
      modelPreferenceRank (heap id) req < modelPreferenceRank (heap other) req ||
      (modelPreferenceRank (heap id) req = modelPreferenceRank (heap other) req &&
        selectionScore req threshold nowMs (heap other) ≤
          selectionScore req threshold nowMs (heap id))

variable {req}

/-- A place in a chain that `int` can count is a rank. -/
theorem modelPreferenceRank_ne_intMax {ep : VllmEndpoint}
    (counted : (req.fallbackChain.length : Int) ≤ intMax)
    (supported : endpointSupportsRequest ep req = true) :
    modelPreferenceRank ep req ≠ intMax := by
  have place : req.fallbackChain.idxOf ep.servedModel ≤ req.fallbackChain.length :=
    List.idxOf_le_length
  unfold modelPreferenceRank
  dsimp only
  split
  next inside =>
    have small : ((req.fallbackChain.idxOf ep.servedModel : Nat) : Int) < intMax := by omega
    unfold intMax at small ⊢
    unfold toInt32
    rw [Int.bmod_eq_of_le] <;> omega
  next outside =>
    -- an endpoint outside the chain is supported by name
    have absent : req.fallbackChain.idxOf ep.servedModel = req.fallbackChain.length :=
      not_not.mp outside
    split
    · decide
    next unnamed =>
      rw [endpointSupportsRequest, if_neg unnamed] at supported
      simp only [Bool.or_eq_true, decide_eq_true_eq, not_or] at unnamed
      simp [fallbackAllows, unnamed.1, absent] at supported

/-- With degradation every eligible endpoint is a candidate that may be taken. -/
theorem selectEndpoint_degradable (endpoints : List Nat) (heap : Heap)
    (degradable : req.allowDegrade = true)
    (counted : (req.fallbackChain.length : Int) ≤ intMax) :
    (selectEndpoint req threshold nowMs endpoints heap).1 =
      firstBest (fun id => modelPreferenceRank (heap id) req)
        (fun id => selectionScore req threshold nowMs (heap id))
        (endpoints.filter fun id => eligible req nowMs (heap id)) := by
  have same (ep : VllmEndpoint) : candidate req nowMs ep = eligible req nowMs ep := by
    cases passes : eligible req nowMs ep with
    | false => simp [candidate, passes]
    | true =>
      have supported : endpointSupportsRequest ep req = true := by
        simp only [eligible, Bool.and_eq_true] at passes
        exact passes.1.1
      simp [candidate, passes, modelPreferenceRank_ne_intMax counted supported]
  rw [selectEndpoint_choice, better, foldl_bestStep_usable]
  · simp only [same]
  · intro id _
    simp [takes, degradable]

/-- Selection for a request that may be degraded: the first optimum among the eligible
endpoints, and nothing is written but its slot and the transitions that are due. -/
theorem selectEndpoint_optimal (endpoints : List Nat) (heap : Heap)
    (degradable : req.allowDegrade = true)
    (counted : (req.fallbackChain.length : Int) ≤ intMax) :
    ((selectEndpoint req threshold nowMs endpoints heap).1 = none ↔
      ∀ id ∈ endpoints, eligible req nowMs (heap id) = false) ∧
    (selectEndpoint req threshold nowMs endpoints heap).1 =
      endpoints.find? (optimal req threshold nowMs endpoints heap) ∧
    (∀ id ∈ endpoints, eligible req nowMs (heap id) = true →
      modelPreferenceRank (heap id) req ≠ intMax) ∧
    ∀ id, (selectEndpoint req threshold nowMs endpoints heap).2 id =
      let due := id ∈ endpoints ∧ endpointSupportsRequest (heap id) req = true ∧
        (heap id).circuitState = .opened ∧ (heap id).circuitOpenUntilMs ≤ nowMs
      let ep := if due then reopen (heap id) else heap id
      if (selectEndpoint req threshold nowMs endpoints heap).1 = some id then dispatch ep
      else ep := by
  have found := selectEndpoint_degradable threshold nowMs endpoints heap degradable counted
  refine ⟨?_, ?_, ?_, ?_⟩
  · rw [found, firstBest_eq_none_iff, List.filter_eq_nil_iff]
    simp only [Bool.not_eq_true]
  · rw [found, firstBest_eq_find?, List.find?_filter]
    congr 1
    funext id
    simp only [optimal, List.all_filter, Bool.decide_or, Bool.decide_and,
      Bool.decide_eq_true, Bool.or_assoc]
  · intro id _ passes
    apply modelPreferenceRank_ne_intMax counted
    simp only [eligible, Bool.and_eq_true] at passes
    exact passes.1.1
  · intro id
    rw [selectEndpoint_after, tested_eq]
    by_cases listed : id ∈ endpoints
    · simp [listed]
    · simp [listed]

end Selection

/-- A backend for model `m` alone. -/
def loneEndpoint : VllmEndpoint := { servedModel := "m" }

/-- A heavy backend of `n`, and two of `m`: a busy one and an idle one. -/
def mixedHeap : Heap
  | 0 => { servedModel := "n", weight := 900, maxConcurrency := 4 }
  | 1 => { servedModel := "m", inflight := 1, maxConcurrency := 4 }
  | _ => { servedModel := "m", maxConcurrency := 4 }

/-- A request for `m` that may be answered by `n`. -/
def mixedRequest : InferenceRequest := { logicalModel := "m", fallbackChain := ["m", "n"] }

/-- The average latency is a `double`, and the same in all of them. -/
theorem mixedHeap_scores : ∃ latency,
    selectionScore mixedRequest 7 0 (mixedHeap 0) = 7000 - latency ∧
    selectionScore mixedRequest 7 0 (mixedHeap 1) = 875 - latency ∧
    selectionScore mixedRequest 7 0 (mixedHeap 2) = 1000 - latency := by
  refine ⟨((0.0 : Float) / 20.0).toInt32.toInt, ?_, ?_, ?_⟩
  · change 9000 - 0 - ((0.0 : Float) / 20.0).toInt32.toInt - 0 - 2000 - 0 - 0 - 0 = _
    omega
  · change 1000 - 125 - ((0.0 : Float) / 20.0).toInt32.toInt - 0 - 0 - 0 - 0 - 0 = _
    omega
  · change 1000 - 0 - ((0.0 : Float) / 20.0).toInt32.toInt - 0 - 0 - 0 - 0 - 0 = _
    omega

/-- The fallback has the best score and the worse rank, and the busy backend stands before the
idle one. -/
theorem selectEndpoint_optimal_mixed :
    mixedRequest.allowDegrade = true ∧
    modelPreferenceRank (mixedHeap 2) mixedRequest <
      modelPreferenceRank (mixedHeap 0) mixedRequest ∧
    selectionScore mixedRequest 7 0 (mixedHeap 1) < selectionScore mixedRequest 7 0 (mixedHeap 2) ∧
    selectionScore mixedRequest 7 0 (mixedHeap 2) < selectionScore mixedRequest 7 0 (mixedHeap 0) ∧
    (selectEndpoint mixedRequest 7 0 [0, 1, 2] mixedHeap).1 = some 2 := by
  obtain ⟨latency, fallback, busy, idle⟩ := mixedHeap_scores
  have ranked : modelPreferenceRank (mixedHeap 0) mixedRequest = 1 ∧
      modelPreferenceRank (mixedHeap 1) mixedRequest = 0 ∧
      modelPreferenceRank (mixedHeap 2) mixedRequest = 0 := by decide
  have open_ : eligible mixedRequest 0 (mixedHeap 0) = true ∧
      eligible mixedRequest 0 (mixedHeap 1) = true ∧
      eligible mixedRequest 0 (mixedHeap 2) = true := by decide
  refine ⟨rfl, by decide, by omega, by omega, ?_⟩
  rw [(selectEndpoint_optimal 7 0 [0, 1, 2] mixedHeap rfl (by decide)).2.1]
  simp [optimal, ranked, open_, fallback, busy, idle]

/-- A request whose chain has its second model at place `n`. -/
def distantRequest (n : Nat) : InferenceRequest :=
  { logicalModel := "a", fallbackChain := List.replicate (n + 1) "a" ++ ["m"] }

theorem distantRequest_skips (n : Nat) (last : toInt32 (n + 1 : Nat) = intMax) :
    eligible (distantRequest n) 0 loneEndpoint = true ∧
    (selectEndpoint (distantRequest n) 7 0 [0] fun _ => loneEndpoint).1 = none := by
  have place : (distantRequest n).fallbackChain.idxOf "m" = n + 1 := by
    rw [distantRequest, List.idxOf_append_of_notMem (by simp)]
    simp
  have start : (distantRequest n).fallbackChain.idxOf "a" = 0 := by
    simp [distantRequest, List.replicate_succ]
  have length : (distantRequest n).fallbackChain.length = n + 2 := by simp [distantRequest]
  have rank : modelPreferenceRank loneEndpoint (distantRequest n) = intMax := by
    simp only [modelPreferenceRank, loneEndpoint, place, length, last]
    simp
  constructor
  · have allowed : fallbackAllows "a" "m" (distantRequest n).fallbackChain = true := by
      simp [fallbackAllows, place, start, length]
    have supported : endpointSupportsRequest loneEndpoint (distantRequest n) = true := by
      unfold endpointSupportsRequest
      split
      · rfl
      · exact allowed
    rw [eligible, supported]
    rfl
  · rw [selectEndpoint_choice]
    simp [candidate, rank]

/-- The place `2147483647` of a chain is no rank: the only endpoint is passed over. -/
theorem long_chain_skips_endpoint : ∃ req ep, req.allowDegrade = true ∧
    eligible req 0 ep = true ∧ (selectEndpoint req 7 0 [0] fun _ => ep).1 = none :=
  ⟨distantRequest 2147483646, loneEndpoint, rfl, distantRequest_skips 2147483646 (by decide)⟩

/-! ### Requests that may not be degraded -/

section Strict

variable {req : InferenceRequest} (threshold nowMs : Int)

/-- A strict request finds an endpoint exactly if some candidate that is not degraded has no
degraded one of a better rank behind it, and in every order of the list exactly if one has no
degraded one of a better rank at all. -/
theorem strict_selection_iff (endpoints : List Nat) (heap : Heap)
    (strict : req.allowDegrade = false) :
    ((selectEndpoint req threshold nowMs endpoints heap).1.isSome = true ↔
      ∃ before id after, endpoints = before ++ id :: after ∧
        candidate req nowMs (heap id) = true ∧ isDegradedEndpoint (heap id) req = false ∧
        ∀ other ∈ after, candidate req nowMs (heap other) = true →
          isDegradedEndpoint (heap other) req = true →
          modelPreferenceRank (heap id) req ≤ modelPreferenceRank (heap other) req) ∧
    ((∀ order : List Nat, order.Perm endpoints →
        (selectEndpoint req threshold nowMs order heap).1.isSome = true) ↔
      ∃ id ∈ endpoints, candidate req nowMs (heap id) = true ∧
        isDegradedEndpoint (heap id) req = false ∧
        ∀ other ∈ endpoints, candidate req nowMs (heap other) = true →
          isDegradedEndpoint (heap other) req = true →
          modelPreferenceRank (heap id) req ≤ modelPreferenceRank (heap other) req) := by
  have takes_iff (ep : VllmEndpoint) : takes req ep = !isDegradedEndpoint ep req := by
    simp [takes, strict]
  constructor
  · rw [selectEndpoint_choice, better, filter_bestStep_isSome_iff]
    simp only [takes_iff, Bool.not_eq_true', Bool.not_eq_false']
  · simp only [selectEndpoint_choice, better, filter_bestStep_perm_iff, takes_iff,
      Bool.not_eq_true', Bool.not_eq_false']

end Strict

/-- A strict request of a profile with primary model `a` and the fallbacks `b` and `c`. -/
def strictRequest : InferenceRequest :=
  { logicalModel := "a", fallbackChain := ["a", "b", "c"], allowDegrade := false }

/-- Two endpoints that stand in for `a`: a primary one on `c`, and a fallback one on `b`. -/
def standIns : Heap
  | 0 => { servedModel := "c", logicalModels := ["a"], role := "primary" }
  | _ => { servedModel := "b", logicalModels := ["a"], role := "fallback" }

theorem strict_selection_iff_standIns :
    (selectEndpoint strictRequest 7 0 [1, 0] standIns).1 = some 0 ∧
    ∃ before id after, [1, 0] = before ++ id :: after ∧
      candidate strictRequest 0 (standIns id) = true ∧
      isDegradedEndpoint (standIns id) strictRequest = false ∧
      ∀ other ∈ after, candidate strictRequest 0 (standIns other) = true →
        isDegradedEndpoint (standIns other) strictRequest = true →
        modelPreferenceRank (standIns id) strictRequest ≤
          modelPreferenceRank (standIns other) strictRequest :=
  ⟨rfl, (strict_selection_iff 7 0 [1, 0] standIns rfl).1.mp rfl⟩

/-- The degraded endpoint behind the good one takes its place and is then skipped. -/
theorem degraded_endpoint_starves_strict :
    eligible strictRequest 0 (standIns 0) = true ∧
    isDegradedEndpoint (standIns 0) strictRequest = false ∧
    (selectEndpoint strictRequest 7 0 [0, 1] standIns).1 = none ∧
    (selectEndpoint strictRequest 7 0 [1, 0] standIns).1 = some 0 :=
  ⟨rfl, rfl, rfl, rfl⟩

/-! ### What the selected endpoint stands for -/

/-- A model that stands in through the chain comes after the one that was asked for. -/
theorem fallbackAllows_position {requestedModel servedModel : String} {chain : List String}
    (allowed : fallbackAllows requestedModel servedModel chain = true)
    (other : servedModel ≠ requestedModel) :
    requestedModel ∈ chain ∧ servedModel ∈ chain ∧
      chain.idxOf requestedModel ≤ chain.idxOf servedModel := by
  unfold fallbackAllows at allowed
  rw [if_neg other] at allowed
  dsimp only at allowed
  split at allowed
  · cases allowed
  next inside =>
    simp only [Bool.or_eq_true, decide_eq_true_eq, List.idxOf_eq_length_iff, not_or,
      not_not] at inside
    exact ⟨inside.1, inside.2, of_decide_eq_true allowed⟩

/-- The selected endpoint stands for the model of the request as the request allows, and it
could take a call. -/
theorem selectEndpoint_sound (req : InferenceRequest) (threshold nowMs : Int)
    (endpoints : List Nat) (heap after : Heap) (id : Nat)
    (returned : selectEndpoint req threshold nowMs endpoints heap = (some id, after)) :
    (req.allowDegrade = false →
      ((after id).servedModel = req.logicalModel ∨
        req.logicalModel ∈ (after id).logicalModels) ∧
      (prepareRequestForEndpoint req (after id)).degraded = false) ∧
    (req.allowDegrade = true → (after id).servedModel ≠ req.logicalModel →
      req.logicalModel ∉ (after id).logicalModels →
      req.logicalModel ∈ req.fallbackChain ∧ (after id).servedModel ∈ req.fallbackChain ∧
        req.fallbackChain.idxOf req.logicalModel ≤
          req.fallbackChain.idxOf (after id).servedModel) ∧
    ∃ ep, Touched nowMs (heap id) ep ∧ after id = dispatch ep ∧
      ((ep.circuitState = .closed ∧ ep.healthy = true) ∨
        (ep.circuitState = .halfOpen ∧ ep.halfOpenInflight ≤ 0)) ∧
      ep.inflight < ep.maxConcurrency := by
  have chosen : (selectEndpoint req threshold nowMs endpoints heap).1 = some id := by
    rw [returned]
  obtain ⟨listed, passes, own⟩ := selectEndpoint_some req threshold nowMs endpoints heap id chosen
  have written := selectEndpoint_after req threshold nowMs endpoints heap id
  rw [returned] at written
  simp only [if_pos listed, if_true] at written
  have served : (after id).servedModel = (heap id).servedModel := by
    rw [written]
    exact (tested_config req nowMs (heap id)).1
  have logical : (after id).logicalModels = (heap id).logicalModels := by
    rw [written]
    exact (tested_config req nowMs (heap id)).2.1
  simp only [eligible, Bool.and_eq_true] at passes
  obtain ⟨⟨supported, available⟩, _⟩ := passes
  have reached : tested req nowMs (heap id) = (endpointAvailableLocked (heap id) nowMs).2 := by
    rw [tested, if_pos supported]
  rw [served, logical]
  refine ⟨?_, ?_, tested req nowMs (heap id), ?_, written, ?_⟩
  · intro strict
    constructor
    · simpa [endpointSupportsRequest, strict] using supported
    · -- the label is computed once more, from the endpoint as it was dispatched to
      have label : isDegradedEndpoint (after id) req = isDegradedEndpoint (heap id) req := by
        rw [written]
        exact isDegradedEndpoint_tested req nowMs (heap id)
      simpa [prepareRequestForEndpoint, label, takes, strict] using own
  · intro degradable otherModel unlisted
    have allowed : fallbackAllows req.logicalModel (heap id).servedModel req.fallbackChain =
        true := by
      simpa [endpointSupportsRequest, degradable, otherModel, unlisted] using supported
    exact fallbackAllows_position allowed otherModel
  · rw [reached]
    exact endpointAvailableLocked_touched (heap id) nowMs
  · rw [reached]
    obtain ⟨admits, capacity⟩ := endpointAvailableLocked_ready (heap id) nowMs available
    exact ⟨admits, capacity⟩

/-- A primary endpoint on the last model of the chain, for a strict request. -/
theorem selectEndpoint_sound_standIns : ∃ after,
    selectEndpoint strictRequest 7 0 [1, 0] standIns = (some 0, after) ∧
    ((after 0).servedModel = "a" ∨ "a" ∈ (after 0).logicalModels) ∧
    (prepareRequestForEndpoint strictRequest (after 0)).degraded = false :=
  ⟨_, rfl, (selectEndpoint_sound strictRequest 7 0 [1, 0] standIns _ 0 rfl).1 rfl⟩

/-! ### The context of the selected endpoint -/

/-- The tokens that `estimate_prompt_tokens` is to count. -/
def promptTokens (req : InferenceRequest) : Int := (req.prompt.length / 4 : Nat) + req.maxTokens

/-- The conversion and the addition wrap once, together. -/
theorem estimatePromptTokens_eq (req : InferenceRequest) :
    estimatePromptTokens req = toInt32 (promptTokens req) := by
  unfold estimatePromptTokens promptTokens toInt32
  rw [Int.bmod_add_bmod]

/-- For every request and every endpoint list, the limit of the selected endpoint is
respected if and only if the estimate is one that an `int` can hold. -/
theorem context_limit_respected_iff (req : InferenceRequest) (threshold nowMs : Int)
    (endpoints : List Nat) (heap : Heap) (id : Nat) (low : intMin ≤ req.maxTokens)
    (chosen : (selectEndpoint req threshold nowMs endpoints heap).1 = some id)
    (limited : (heap id).maxContextLen > 0) (high : (heap id).maxContextLen ≤ intMax) :
    promptTokens req ≤ (heap id).maxContextLen ↔ promptTokens req ≤ intMax := by
  obtain ⟨_, passes, _⟩ := selectEndpoint_some req threshold nowMs endpoints heap id chosen
  have estimated : estimatePromptTokens req ≤ (heap id).maxContextLen := by
    simpa [eligible, limited] using (Bool.and_eq_true_iff.mp passes).2
  rw [estimatePromptTokens_eq] at estimated
  constructor
  · intro respected
    omega
  · intro held
    have above : intMin ≤ promptTokens req := by
      unfold promptTokens
      omega
    rwa [toInt32_eq_self above held] at estimated

/-- A backend with a context of 100 tokens. -/
def smallEndpoint : VllmEndpoint := { servedModel := "m", maxContextLen := 100 }

theorem context_limit_respected_iff_small :
    promptTokens { logicalModel := "m", maxTokens := 99, prompt := lit "code" } ≤ 100 :=
  (context_limit_respected_iff { logicalModel := "m", maxTokens := 99, prompt := lit "code" } 7 0
    [0] (fun _ => smallEndpoint) 0 (by decide) rfl (by decide) (by decide)).mpr (by decide)

/-- With the largest `max_tokens`, one token of prompt makes the estimate negative. -/
theorem context_limit_exceeded :
    (selectEndpoint { logicalModel := "m", maxTokens := intMax, prompt := lit "code" } 7 0 [0]
      fun _ => smallEndpoint).1 = some 0 ∧
    smallEndpoint.maxContextLen = 100 ∧
    promptTokens { logicalModel := "m", maxTokens := intMax, prompt := lit "code" } =
      2147483648 :=
  ⟨rfl, rfl, by decide⟩

end VllmRoute.Scheduler
