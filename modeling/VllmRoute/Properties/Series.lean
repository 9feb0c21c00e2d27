import VllmRoute.Lib.Run
import VllmRoute.Observability.Metrics

/-!
# The series of the metrics

The name of a series is a fixed beginning followed by sanitized segments. No
beginning is the beginning of another, so a name tells its family and with it
the mode of the series: `families` is the whole table. The samples of a family
of sums are ones, so the value of such a series, buffered or written, is the
number of its samples.
-/
namespace VllmRoute.Observability

open Lib (run alter valueAt total)

/-! ## Families of names -/

abbrev Family := String × SeriesMode

def requestCount : Family := ("llm.request.count.action.", .sum)

def requestSuccess : Family := ("llm.request.success.count.action.", .sum)

def requestError : Family := ("llm.request.error.count.action.", .sum)

/-- The families that do not count the outcome of requests. -/
def otherFamilies : List Family :=
  [("llm.request.timeout.count.action.", .sum), ("llm.request.degraded.count.action.", .sum),
    ("llm.request.latency.avg_ms.action.", .avg), ("llm.request.latency.p95_ms.action.", .p95),
    ("llm.request.queue_wait.avg_ms.action.", .avg),
    ("llm.request.queue_wait.p95_ms.action.", .p95),
    ("llm.request.ttft.avg_ms.action.", .avg), ("llm.request.ttft.p95_ms.action.", .p95),
    ("llm.endpoint.request.count.", .sum), ("llm.endpoint.request.success.count.", .sum),
    ("llm.endpoint.request.error.count.", .sum), ("llm.queue.reject.count.action.", .sum),
    ("llm.queue.pending", .last), ("llm.queue.high", .last), ("llm.queue.normal", .last),
    ("llm.queue.background", .last), ("llm.queue.max_size", .last),
    ("llm.endpoint.inflight.", .last), ("llm.endpoint.available_capacity.", .last),
    ("llm.endpoint.avg_latency_ms.", .last), ("llm.endpoint.healthy.", .last),
    ("llm.endpoint.circuit_state.", .last), ("llm.endpoint.success.total.", .last),
    ("llm.endpoint.failure.total.", .last), ("llm.endpoint.timeout.total.", .last),
    ("llm.endpoint.circuit_open.total.", .last)]

def families : List Family := requestCount :: requestSuccess :: requestError :: otherFamilies

/-- The name begins with the text of the family. -/
def Family.Names (family : Family) (name : Bytes) : Prop := lit family.1 <+: name

theorem Family.names_append (family : Family) (segment : Bytes) :
    family.Names (lit family.1 ++ segment) := List.prefix_append _ _

private theorem families_apart :
    ∀ f ∈ families, ∀ g ∈ families, f ≠ g → ¬ lit f.1 <+: lit g.1 := by
  decide +kernel

/-- A name has one family. -/
theorem family_unique {f g : Family} {name : Bytes} (listed : f ∈ families) (listed' : g ∈ families)
    (named : f.Names name) (named' : g.Names name) : f = g := by
  by_contra differ
  rcases List.prefix_or_prefix_of_prefix named named' with shorter | longer
  · exact families_apart f listed g listed' differ shorter
  · exact families_apart g listed' f listed (Ne.symm differ) longer

/-- The name is of a family of the table with that mode. -/
def NamedIn (table : List Family) (name : Bytes) (mode : SeriesMode) : Prop :=
  ∃ family ∈ table, family.2 = mode ∧ family.Names name

theorem NamedIn.mode_unique {name : Bytes} {mode mode' : SeriesMode}
    (first : NamedIn families name mode) (second : NamedIn families name mode') : mode = mode' := by
  obtain ⟨f, listed, rfl, named⟩ := first
  obtain ⟨g, listed', rfl, named'⟩ := second
  rw [family_unique listed listed' named named']

/-! ## Sanitized segments -/

private theorem sanitizeByte_ne_dot (ch : UInt8) : sanitizeByte ch ≠ chr '.' := by
  unfold sanitizeByte
  split
  case isTrue allowed =>
    rintro rfl
    revert allowed
    decide
  case isFalse => decide

/-- A sanitized segment has no dot, so it ends where the name goes on. -/
theorem dot_notMem_sanitizeSegment (value : Bytes) : chr '.' ∉ sanitizeSegment value := by
  simp only [sanitizeSegment]
  split
  · decide +kernel
  · intro member
    obtain ⟨ch, -, same⟩ := List.mem_map.mp member
    exact sanitizeByte_ne_dot ch same

private theorem takeWhile_segment {segment : Bytes} (plain : chr '.' ∉ segment) (rest : Bytes) :
    (segment ++ chr '.' :: rest).takeWhile (· != chr '.') = segment := by
  rw [List.takeWhile_append_of_pos]
  · simp
  · intro ch member
    have other : ch ≠ chr '.' := fun same => plain (same ▸ member)
    simpa using other

theorem segment_unique {a b more rest : Bytes} (plain : chr '.' ∉ a) (plain' : chr '.' ∉ b)
    (begins : a ++ chr '.' :: more <+: b ++ chr '.' :: rest) : a = b := by
  obtain ⟨tail, whole⟩ := begins
  have cut := congrArg (List.takeWhile (· != chr '.')) whole
  rwa [List.append_assoc, List.cons_append, takeWhile_segment plain,
    takeWhile_segment plain'] at cut

/-! ## Samples -/

/-- The sample is of one of the families, in its mode, and adds one where that is a sum. -/
structure Sample.Under (table : List Family) (sample : Sample) : Prop where
  named : NamedIn table sample.measurement sample.mode
  one : sample.mode = .sum → sample.value = 1

private theorem under_append {table : List Family} (family : Family) (segment : Bytes) (value : ℚ)
    (listed : family ∈ table) (one : family.2 = .sum → value = 1) :
    Sample.Under table ⟨family.2, lit family.1 ++ segment, value⟩ :=
  ⟨⟨family, listed, rfl, family.names_append segment⟩, one⟩

private theorem forall_mem_if {α : Type*} {holds : α → Prop} {condition : Prop}
    [Decidable condition] {first second : List α} (left : ∀ x ∈ first, holds x)
    (right : ∀ x ∈ second, holds x) : ∀ x ∈ if condition then first else second, holds x := by
  split
  · exact left
  · exact right

def countSample (event : RequestMetricsEvent) : Sample :=
  ⟨.sum, lit requestCount.1 ++ sanitizeSegment event.action, 1⟩

def outcomeSample (event : RequestMetricsEvent) : Sample :=
  if event.ok then ⟨.sum, lit requestSuccess.1 ++ sanitizeSegment event.action, 1⟩
  else ⟨.sum, lit requestError.1 ++ (sanitizeSegment event.action ++ (lit ".code." ++
    sanitizeSegment (decimal event.errorCode))), 1⟩

/-- A finished request is counted once and its outcome once; the rest is of other families. -/
theorem observeRequestFinish_eq (event : RequestMetricsEvent) :
    ∃ rest, observeRequestFinish event = countSample event :: outcomeSample event :: rest ∧
      ∀ sample ∈ rest, sample.Under otherFamilies := by
  have success : ∀ segment, lit "llm.endpoint.request." ++ (lit "success.count." ++ segment) =
      lit "llm.endpoint.request.success.count." ++ segment := fun segment => by
    rw [← List.append_assoc]
    exact congrArg (· ++ segment) (by decide +kernel)
  have error : ∀ segment, lit "llm.endpoint.request." ++ (lit "error.count." ++ segment) =
      lit "llm.endpoint.request.error.count." ++ segment := fun segment => by
    rw [← List.append_assoc]
    exact congrArg (· ++ segment) (by decide +kernel)
  cases ok : event.ok
  all_goals
    simp only [observeRequestFinish, outcomeSample, ok, if_true, Bool.false_eq_true, if_false,
      List.append_assoc, List.cons_append, List.nil_append, success, error]
    refine ⟨_, rfl, ?_⟩
    simp only [List.forall_mem_append]
    and_intros
    all_goals
      apply forall_mem_if
      · simp only [List.forall_mem_cons, List.not_mem_nil, false_implies,
        implies_true, and_true]
        and_intros
        all_goals exact under_append (_, _) _ _ (by simp [otherFamilies]) (by simp)
      · exact List.forall_mem_nil _

private theorem observeQueueReject_under (action : Bytes) :
    ∀ sample ∈ observeQueueReject action, sample.Under otherFamilies := by
  simp only [observeQueueReject, List.forall_mem_singleton]
  exact under_append (_, _) _ _ (by simp [otherFamilies]) (by simp)

private theorem observeQueueSnapshot_under (event : QueueMetricsEvent) :
    ∀ sample ∈ observeQueueSnapshot event, sample.Under otherFamilies := by
  have plain : ∀ text value, ((text, .last) : Family) ∈ otherFamilies →
      Sample.Under otherFamilies ⟨.last, lit text, value⟩ := fun text value listed =>
    ⟨⟨_, listed, rfl, List.prefix_rfl⟩, by simp⟩
  simp only [observeQueueSnapshot, List.forall_mem_cons, List.not_mem_nil, false_implies,
        implies_true, and_true]
  and_intros
  all_goals exact plain _ _ (by simp [otherFamilies])

private theorem observeEndpoint_under (event : EndpointMetricsEvent) :
    ∀ sample ∈ observeEndpoint event, sample.Under otherFamilies := by
  simp only [observeEndpoint, List.forall_mem_cons, List.not_mem_nil, false_implies,
        implies_true, and_true]
  and_intros
  all_goals exact under_append (_, _) _ _ (by simp [otherFamilies]) (by simp)

theorem Sample.Under.widen {sample : Sample} (under : sample.Under otherFamilies) :
    sample.Under families := by
  obtain ⟨family, listed, rest⟩ := under.named
  exact ⟨⟨family, by simp [families, listed], rest⟩, under.one⟩

theorem outcomeSample_under (event : RequestMetricsEvent) :
    (outcomeSample event).Under families := by
  unfold outcomeSample
  split
  · exact under_append requestSuccess _ _ (by simp [families]) (by simp)
  · exact under_append requestError _ _ (by simp [families]) (by simp)

/-- Every sample of every call is of one of the families. -/
theorem samples_under (observation : Observation) :
    ∀ sample ∈ observation.samples, sample.Under families := by
  cases observation with
  | requestFinish event =>
    obtain ⟨rest, split, others⟩ := observeRequestFinish_eq event
    rw [Observation.samples, split, List.forall_mem_cons, List.forall_mem_cons]
    exact ⟨under_append requestCount _ _ (by simp [families]) (by simp), outcomeSample_under event,
      fun sample member => (others sample member).widen⟩
  | queueReject action =>
    exact fun sample member => (observeQueueReject_under action sample member).widen
  | queueSnapshot event =>
    exact fun sample member => (observeQueueSnapshot_under event sample member).widen
  | endpoint event =>
    exact fun sample member => (observeEndpoint_under event sample member).widen

/-! ## One series -/

/-- What a series holds once it has a sample. -/
structure SeriesState.Kept (name : Bytes) (state : SeriesState) : Prop where
  sampled : 0 < state.count
  named : NamedIn families name state.mode
  whole : state.mode = .sum → state.sum = state.count

theorem SeriesState.Kept.not_fresh {name : Bytes} {state : SeriesState} (kept : state.Kept name) :
    state.fresh = false := by
  simp [fresh, kept.sampled.ne']

theorem SeriesState.enter_eq {mode : SeriesMode} {state : SeriesState}
    (known : state = {} ∨ state.fresh = false ∧ state.mode = mode) :
    state.enter mode = { state with mode := mode } := by
  obtain rfl | ⟨old, rfl⟩ := known
  · simp [enter, fresh]
  · simp [enter, old]

private theorem families_no_max : ∀ family ∈ families, family.2 ≠ .max := by decide

theorem Sample.addTo_spec {sample : Sample} {state : SeriesState} (sampleLimit : Nat)
    (under : sample.Under families) (known : state = {} ∨ state.Kept sample.measurement) :
    (sample.addTo sampleLimit state).mode = sample.mode ∧
      (sample.addTo sampleLimit state).count = state.count + 1 ∧
      (sample.mode = .sum → (sample.addTo sampleLimit state).sum = state.sum + sample.value) := by
  have entered : state.enter sample.mode = { state with mode := sample.mode } :=
    SeriesState.enter_eq (known.imp_right fun kept =>
      ⟨kept.not_fresh, kept.named.mode_unique under.named⟩)
  obtain ⟨family, listed, same, -⟩ := under.named
  have used := families_no_max family listed
  rw [same] at used
  cases mode : sample.mode with
  | max => exact absurd mode used
  | sum | avg | last | p95 =>
    rw [mode] at entered
    simp [addTo, mode, SeriesState.addSumLocked, SeriesState.addAvgLocked,
      SeriesState.addLastLocked, SeriesState.addP95Locked, entered]

/-- A series that is empty or holds samples of its name holds them after one more. -/
theorem Sample.addTo_kept {sample : Sample} {state : SeriesState} (sampleLimit : Nat)
    (under : sample.Under families) (known : state = {} ∨ state.Kept sample.measurement) :
    (sample.addTo sampleLimit state).Kept sample.measurement := by
  obtain ⟨mode, count, sum⟩ := addTo_spec sampleLimit under known
  refine ⟨by omega, by simpa only [mode] using under.named, fun isSum => ?_⟩
  have summing : sample.mode = .sum := mode.symm.trans isSum
  have before : state.sum = state.count := by
    obtain rfl | kept := known
    · rfl
    · exact kept.whole ((kept.named.mode_unique under.named).trans summing)
  rw [sum summing, count, before, under.one summing, Nat.cast_add, Nat.cast_one]

/-- The buffered series are empty or hold samples of their names. -/
def SeriesMap.Kept (series : SeriesMap) : Prop := ∀ entry ∈ series, entry.2.Kept entry.1

theorem SeriesMap.Kept.valueAt {series : SeriesMap} (kept : series.Kept) (name : Bytes) :
    valueAt name {} series = {} ∨ (Lib.valueAt name {} series).Kept name :=
  (Lib.valueAt_cases name {} series).imp_right fun member => kept _ member

theorem SeriesMap.Kept.addLocked {series : SeriesMap} {sample : Sample} (sampleLimit : Nat)
    (kept : series.Kept) (under : sample.Under families) :
    SeriesMap.Kept (addLocked sampleLimit series sample) :=
  Lib.forall_alter kept (sample.addTo_kept sampleLimit under (kept.valueAt _))

theorem SeriesMap.Kept.foldl {series : SeriesMap} {samples : List Sample} (sampleLimit : Nat)
    (kept : series.Kept) (under : ∀ sample ∈ samples, sample.Under families) :
    SeriesMap.Kept (samples.foldl (Observability.addLocked sampleLimit) series) := by
  induction samples generalizing series with
  | nil => exact kept
  | cons sample samples ih =>
    rw [List.forall_mem_cons] at under
    exact ih (kept.addLocked sampleLimit under.1) under.2

/-- No sample of a call meets a series of another mode. -/
theorem SeriesMap.Kept.not_resets {series : SeriesMap} {sample : Sample} (kept : series.Kept)
    (under : sample.Under families) :
    ¬ (Lib.valueAt sample.measurement {} series).Resets sample.mode := by
  rintro ⟨old, other⟩
  rcases kept.valueAt sample.measurement with empty | held
  · rw [empty] at old
    simp [SeriesState.fresh] at old
  · exact other (held.named.mode_unique under.named)

/-! ## Totals -/

/-- The series whose names are chosen are sums. -/
def Summing (chosen : Bytes → Bool) : Prop :=
  ∀ name, chosen name = true → NamedIn families name .sum

def stateWeight (chosen : Bytes → Bool) (name : Bytes) (state : SeriesState) : ℚ :=
  if chosen name then (seriesFlushValue state).getD 0 else 0

/-- What a flush of the series would write under the chosen names. -/
def buffered (chosen : Bytes → Bool) (series : SeriesMap) : ℚ := total (stateWeight chosen) series

def sampleWeight (chosen : Bytes → Bool) (sample : Sample) : ℚ :=
  if chosen sample.measurement then sample.value else 0

/-- What the samples add under the chosen names. -/
def gained (chosen : Bytes → Bool) (samples : List Sample) : ℚ :=
  (samples.map (sampleWeight chosen)).sum

private theorem seriesFlushValue_sum {state : SeriesState} (sampled : 0 < state.count)
    (mode : state.mode = .sum) : seriesFlushValue state = some state.sum := by
  simp [seriesFlushValue, SeriesState.fresh, sampled.ne', mode]

theorem buffered_addLocked {chosen : Bytes → Bool} {series : SeriesMap} {sample : Sample}
    (sampleLimit : Nat) (summing : Summing chosen) (kept : series.Kept)
    (under : sample.Under families) :
    buffered chosen (addLocked sampleLimit series sample) =
      buffered chosen series + sampleWeight chosen sample := by
  refine Lib.total_alter ?_ ?_
  · simp [stateWeight, seriesFlushValue, SeriesState.fresh]
  · cases picked : chosen sample.measurement with
    | false => simp [stateWeight, sampleWeight, picked]
    | true =>
      have summed : sample.mode = .sum := under.named.mode_unique (summing _ picked)
      have known := kept.valueAt sample.measurement
      obtain ⟨entered, count, sum⟩ := sample.addTo_spec sampleLimit under known
      have after := seriesFlushValue_sum (by omega) (entered.trans summed)
      simp only [stateWeight, sampleWeight, picked, if_true, after, Option.getD_some, sum summed]
      rcases known with empty | held
      · simp [empty, seriesFlushValue, SeriesState.fresh]
      · have mode := held.named.mode_unique (summing _ picked)
        rw [seriesFlushValue_sum held.sampled mode, Option.getD_some]

theorem buffered_foldl {chosen : Bytes → Bool} {series : SeriesMap} {samples : List Sample}
    (sampleLimit : Nat) (summing : Summing chosen) (kept : series.Kept)
    (under : ∀ sample ∈ samples, sample.Under families) :
    buffered chosen (samples.foldl (addLocked sampleLimit) series) =
      buffered chosen series + gained chosen samples := by
  induction samples generalizing series with
  | nil => simp [gained]
  | cons sample samples ih =>
    rw [List.forall_mem_cons] at under
    rw [List.foldl_cons, ih (kept.addLocked sampleLimit under.1) under.2,
      buffered_addLocked sampleLimit summing kept under.1, add_assoc]
    rfl

/-! ## What a call adds to the series of an action -/

/-- The series of the finished requests of an action. -/
def countSeries (action name : Bytes) : Bool := name == lit "llm.request.count.action." ++ action

def successSeries (action name : Bytes) : Bool :=
  name == lit "llm.request.success.count.action." ++ action

/-- The series of all error codes of an action. -/
def errorSeries (action name : Bytes) : Bool :=
  (lit "llm.request.error.count.action." ++ (action ++ lit ".code.")).isPrefixOf name

/-- All chosen names are of the family. -/
def Family.Covers (family : Family) (chosen : Bytes → Bool) : Prop :=
  ∀ name, chosen name = true → family.Names name

theorem countSeries_covered (action : Bytes) : requestCount.Covers (countSeries action) := by
  intro name chosen
  rw [beq_iff_eq.mp chosen]
  exact requestCount.names_append action

theorem successSeries_covered (action : Bytes) : requestSuccess.Covers (successSeries action) := by
  intro name chosen
  rw [beq_iff_eq.mp chosen]
  exact requestSuccess.names_append action

theorem errorSeries_covered (action : Bytes) : requestError.Covers (errorSeries action) :=
  fun _ chosen => (requestError.names_append _).trans (List.isPrefixOf_iff_prefix.mp chosen)

theorem Family.Covers.summing {family : Family} {chosen : Bytes → Bool}
    (covers : family.Covers chosen) (listed : family ∈ families) (sum : family.2 = .sum) :
    Summing chosen :=
  fun name picked => ⟨family, listed, sum, covers name picked⟩

theorem Family.Covers.weight_eq_zero {family other : Family} {chosen : Bytes → Bool}
    {sample : Sample} (covers : family.Covers chosen) (listed : family ∈ families)
    (listed' : other ∈ families) (named : other.Names sample.measurement)
    (differ : family ≠ other) : sampleWeight chosen sample = 0 := by
  refine if_neg fun picked => differ ?_
  exact family_unique listed listed' (covers _ picked) named

theorem Family.Covers.gained_others {family : Family} {chosen : Bytes → Bool}
    {samples : List Sample} (covers : family.Covers chosen) (listed : family ∈ families)
    (main : family ∉ otherFamilies) (others : ∀ sample ∈ samples, sample.Under otherFamilies) :
    gained chosen samples = 0 := by
  refine List.sum_eq_zero fun weight member => ?_
  obtain ⟨sample, inside, rfl⟩ := List.mem_map.mp member
  obtain ⟨other, listed', -, named⟩ := (others sample inside).named
  exact covers.weight_eq_zero listed (by simp [families, listed']) named
    fun same => main (same ▸ listed')

theorem Family.Covers.gained_finish {family : Family} {chosen : Bytes → Bool}
    (covers : family.Covers chosen) (listed : family ∈ families) (main : family ∉ otherFamilies)
    (event : RequestMetricsEvent) :
    gained chosen (observeRequestFinish event) =
      sampleWeight chosen (countSample event) + sampleWeight chosen (outcomeSample event) := by
  obtain ⟨rest, split, others⟩ := observeRequestFinish_eq event
  have nothing : (rest.map (sampleWeight chosen)).sum = 0 := covers.gained_others listed main others
  rw [split, gained, List.map_cons, List.map_cons, List.sum_cons, List.sum_cons, nothing, add_zero]

private theorem requestCount_listed : requestCount ∈ families := by simp [families]

private theorem requestSuccess_listed : requestSuccess ∈ families := by simp [families]

private theorem requestError_listed : requestError ∈ families := by simp [families]

/-- The event is a finished request of the sanitized action. -/
def Event.finishes (action : Bytes) : Event → Bool
  | .observe (.requestFinish event) => sanitizeSegment event.action == action
  | _ => false

private theorem gained_count_finish (action : Bytes) (event : RequestMetricsEvent) :
    gained (countSeries action) (observeRequestFinish event) =
      if sanitizeSegment event.action == action then 1 else 0 := by
  have covers := countSeries_covered action
  have outcome : sampleWeight (countSeries action) (outcomeSample event) = 0 := by
    unfold outcomeSample
    split
    · exact covers.weight_eq_zero requestCount_listed requestSuccess_listed
        (requestSuccess.names_append _) (by decide)
    · exact covers.weight_eq_zero requestCount_listed requestError_listed
        (requestError.names_append _) (by decide)
  rw [covers.gained_finish requestCount_listed (by decide), outcome, add_zero]
  simp [sampleWeight, countSeries, countSample, requestCount]

private theorem errorSeries_outcome {action : Bytes} (plain : chr '.' ∉ action)
    (event : RequestMetricsEvent) (code : Bytes) :
    errorSeries action (lit requestError.1 ++ (sanitizeSegment event.action ++
      (lit ".code." ++ code))) = (sanitizeSegment event.action == action) := by
  have dotted : lit ".code." = chr '.' :: lit "code." := by decide +kernel
  rw [Bool.eq_iff_iff, errorSeries, List.isPrefixOf_iff_prefix, beq_iff_eq]
  simp only [requestError, List.prefix_append_right_inj, dotted, List.cons_append]
  constructor
  · exact fun begins => (segment_unique plain (dot_notMem_sanitizeSegment _) begins).symm
  · rintro rfl
    exact ⟨code, by simp⟩

/-- The outcome of a finished request is a success or an error, and never both. -/
private theorem gained_outcome_finish {action : Bytes} (plain : chr '.' ∉ action)
    (event : RequestMetricsEvent) :
    gained (successSeries action) (observeRequestFinish event) +
        gained (errorSeries action) (observeRequestFinish event) =
      if sanitizeSegment event.action == action then 1 else 0 := by
  have success := successSeries_covered action
  have error := errorSeries_covered action
  have counted : requestCount.Names (countSample event).measurement := requestCount.names_append _
  rw [success.gained_finish requestSuccess_listed (by decide),
    error.gained_finish requestError_listed (by decide),
    success.weight_eq_zero requestSuccess_listed requestCount_listed counted (by decide),
    error.weight_eq_zero requestError_listed requestCount_listed counted (by decide),
    zero_add, zero_add]
  unfold outcomeSample
  split
  · rw [error.weight_eq_zero requestError_listed requestSuccess_listed
      (requestSuccess.names_append _) (by decide), add_zero]
    simp [sampleWeight, successSeries, requestSuccess]
  · rw [success.weight_eq_zero requestSuccess_listed requestError_listed
      (requestError.names_append _) (by decide), zero_add]
    simp only [sampleWeight, errorSeries_outcome plain]

/-- What an event adds under the chosen names. -/
def Event.gain (chosen : Bytes → Bool) : Event → ℚ
  | .observe observation => gained chosen observation.samples
  | _ => 0

/-- An event that is no finished request adds nothing to the series of an action. -/
private theorem Event.finish_or_other (event : Event) :
    (∃ finish, event = .observe (.requestFinish finish)) ∨
      (∀ action, event.finishes action = false) ∧
        ∀ (family : Family) (chosen : Bytes → Bool), family.Covers chosen → family ∈ families →
          family ∉ otherFamilies → event.gain chosen = 0 := by
  match event with
  | .observe (.requestFinish finish) => exact .inl ⟨finish, rfl⟩
  | .swap | .write _ _ => exact .inr ⟨fun _ => rfl, fun _ _ _ _ _ => rfl⟩
  | .observe (.queueReject action) =>
    exact .inr ⟨fun _ => rfl, fun _ _ covers listed main =>
      covers.gained_others listed main (observeQueueReject_under action)⟩
  | .observe (.queueSnapshot event) =>
    exact .inr ⟨fun _ => rfl, fun _ _ covers listed main =>
      covers.gained_others listed main (observeQueueSnapshot_under event)⟩
  | .observe (.endpoint event) =>
    exact .inr ⟨fun _ => rfl, fun _ _ covers listed main =>
      covers.gained_others listed main (observeEndpoint_under event)⟩

theorem gain_count (action : Bytes) (event : Event) :
    event.gain (countSeries action) = if event.finishes action then 1 else 0 := by
  obtain ⟨finish, rfl⟩ | ⟨unfinished, nothing⟩ := event.finish_or_other
  · exact gained_count_finish action finish
  · rw [nothing _ _ (countSeries_covered action) requestCount_listed (by decide), unfinished]
    rfl

theorem gain_outcome {action : Bytes} (plain : chr '.' ∉ action) (event : Event) :
    event.gain (successSeries action) + event.gain (errorSeries action) =
      if event.finishes action then 1 else 0 := by
  obtain ⟨finish, rfl⟩ | ⟨unfinished, nothing⟩ := event.finish_or_other
  · exact gained_outcome_finish plain finish
  · rw [nothing _ _ (successSeries_covered action) requestSuccess_listed (by decide),
      nothing _ _ (errorSeries_covered action) requestError_listed (by decide), unfinished,
      add_zero]
    rfl

/-! ## Runs -/

/-- The values the store got under the chosen names. -/
def Metrics.flushed (chosen : Bytes → Bool) (metrics : Metrics) : ℚ :=
  (metrics.written.map fun point => if chosen point.measurement then point.value else 0).sum

/-- The values under the chosen names that are buffered or on the way to the store. -/
def Metrics.held (chosen : Bytes → Bool) (metrics : Metrics) : ℚ :=
  buffered chosen metrics.series + (metrics.flushing.map (buffered chosen)).sum

def Metrics.recorded (chosen : Bytes → Bool) (metrics : Metrics) : ℚ :=
  metrics.flushed chosen + metrics.held chosen

/-- The point of a sum is a whole number, and is written as one. -/
def Point.Whole (point : Point) : Prop :=
  NamedIn families point.measurement .sum →
    ∃ n : ℕ, point.value = n ∧ point.text = decimal n

structure Metrics.Sound (metrics : Metrics) : Prop where
  enabled : metrics.enabled = true
  series : metrics.series.Kept
  flushing : ∀ snapshot ∈ metrics.flushing, SeriesMap.Kept snapshot
  written : ∀ point ∈ metrics.written, point.Whole

theorem formatValue_natCast (n : ℕ) : formatValue n = decimal n := by
  have rounded : roundAway n = n := by
    rw [roundAway, if_pos n.cast_nonneg, Int.floor_eq_iff]
    push_cast
    constructor <;> linarith
  simp [formatValue, rounded]

private theorem batchOf_whole (timestampMs : Int) {snapshot : SeriesMap} (kept : snapshot.Kept) :
    ∀ point ∈ batchOf timestampMs snapshot, point.Whole := by
  intro point member named
  simp only [batchOf, List.mem_filterMap, Option.map_eq_some_iff] at member
  obtain ⟨entry, inside, value, flushed, rfl⟩ := member
  have held := kept entry inside
  have mode := held.named.mode_unique named
  rw [seriesFlushValue_sum held.sampled mode, held.whole mode] at flushed
  cases flushed
  exact ⟨entry.2.count, rfl, formatValue_natCast _⟩

/-- A batch carries what its snapshot held. -/
private theorem sum_batchOf (chosen : Bytes → Bool) (timestampMs : Int) (snapshot : SeriesMap) :
    ((batchOf timestampMs snapshot).map fun point =>
      if chosen point.measurement then point.value else 0).sum = buffered chosen snapshot := by
  induction snapshot with
  | nil => rfl
  | cons entry snapshot ih =>
    simp only [batchOf, buffered, total, List.map_cons, List.sum_cons] at ih ⊢
    rw [← ih, List.filterMap_cons]
    cases flushed : seriesFlushValue entry.2 <;> simp [stateWeight, flushed]

private theorem step_sound {sampleLimit : Nat} {metrics metrics' : Metrics} {event : Event}
    (taken : step sampleLimit metrics event = some metrics') (sound : metrics.Sound) :
    metrics'.Sound := by
  cases event with
  | observe observation =>
    obtain rfl := Option.some.inj taken
    simp only [observe, sound.enabled, Bool.not_true, Bool.false_eq_true, if_false]
    exact ⟨rfl, sound.series.foldl sampleLimit (samples_under observation), sound.flushing,
      sound.written⟩
  | swap =>
    obtain rfl := Option.some.inj taken
    unfold swapSeries
    split
    · exact sound
    · refine { sound with series := List.forall_mem_nil _, flushing := ?_ }
      rw [List.forall_mem_append]
      exact ⟨sound.flushing, List.forall_mem_singleton.mpr sound.series⟩
  | write index timestampMs =>
    obtain ⟨snapshot, found, rfl⟩ := Option.map_eq_some_iff.mp taken
    have kept := sound.flushing snapshot (List.mem_of_getElem? found)
    refine { sound with flushing := ?_, written := ?_ }
    · exact fun other member => sound.flushing other (List.mem_of_mem_eraseIdx member)
    · rw [List.forall_mem_append]
      exact ⟨sound.written, batchOf_whole timestampMs kept⟩

/-- A flush moves values from one place to the next; only a call adds to them. -/
private theorem step_recorded {sampleLimit : Nat} {metrics metrics' : Metrics} {event : Event}
    {chosen : Bytes → Bool} (summing : Summing chosen)
    (taken : step sampleLimit metrics event = some metrics') (sound : metrics.Sound) :
    metrics'.recorded chosen = metrics.recorded chosen + event.gain chosen := by
  unfold Metrics.recorded
  cases event with
  | observe observation =>
    obtain rfl := Option.some.inj taken
    simp only [observe, sound.enabled, Bool.not_true, Bool.false_eq_true, if_false,
      Metrics.held, Metrics.flushed, Event.gain,
      buffered_foldl sampleLimit summing sound.series (samples_under observation)]
    ring
  | swap =>
    obtain rfl := Option.some.inj taken
    unfold swapSeries
    split
    · exact (add_zero _).symm
    · simp only [Metrics.held, Metrics.flushed, Event.gain, List.map_append, List.sum_append,
        List.map_singleton, List.sum_singleton]
      simp only [buffered, total, List.map_nil, List.sum_nil]
      ring
  | write index timestampMs =>
    obtain ⟨snapshot, found, rfl⟩ := Option.map_eq_some_iff.mp taken
    obtain ⟨inside, rfl⟩ := List.getElem?_eq_some_iff.mp found
    have removed := ((List.getElem_cons_eraseIdx_perm inside).map (buffered chosen)).sum_eq
    rw [List.map_cons, List.sum_cons] at removed
    simp only [Metrics.held, Metrics.flushed, Event.gain, List.map_append, List.sum_append,
      sum_batchOf, ← removed]
    ring

section Run

variable {sampleLimit : Nat} {events : List Event} {metrics : Metrics}

private theorem initial_sound : Metrics.Sound { enabled := true } :=
  ⟨rfl, List.forall_mem_nil _, List.forall_mem_nil _, List.forall_mem_nil _⟩

private theorem initial_recorded (chosen : Bytes → Bool) :
    Metrics.recorded chosen { enabled := true } = 0 := by
  simp [Metrics.recorded, Metrics.flushed, Metrics.held, buffered, total]

private theorem run_sound (ran : run (step sampleLimit) { enabled := true } events = some metrics) :
    metrics.Sound :=
  Lib.run_invariant _ _ (fun _ _ _ => step_sound) _ _ _ ran initial_sound

private theorem run_count (ran : run (step sampleLimit) { enabled := true } events = some metrics)
    (action : Bytes) :
    metrics.recorded (countSeries action) = events.countP (Event.finishes action) := by
  have summing := (countSeries_covered action).summing requestCount_listed rfl
  have counted := Lib.run_counts _ _ (Metrics.recorded (countSeries action)) (Event.finishes action)
    (fun _ _ _ => step_sound) ?_ _ _ _ ran initial_sound
  · rw [counted, initial_recorded, zero_add]
  · intro s event s' taken sound
    rw [step_recorded summing taken sound, gain_count]

private theorem run_outcome
    (ran : run (step sampleLimit) { enabled := true } events = some metrics) {action : Bytes}
    (plain : chr '.' ∉ action) :
    metrics.recorded (successSeries action) + metrics.recorded (errorSeries action) =
      events.countP (Event.finishes action) := by
  have success := (successSeries_covered action).summing requestSuccess_listed rfl
  have error := (errorSeries_covered action).summing requestError_listed rfl
  have counted := Lib.run_counts _ _
    (fun s => Metrics.recorded (successSeries action) s + Metrics.recorded (errorSeries action) s)
    (Event.finishes action) (fun _ _ _ => step_sound) ?_ _ _ _ ran initial_sound
  · rw [counted, initial_recorded, initial_recorded, add_zero, zero_add]
  · intro s event s' taken sound
    rw [step_recorded success taken sound, step_recorded error taken sound, ← gain_outcome plain]
    ring

/-- Metric series are conserved through flushes: the values that the store got or that wait to
be written are, for every action, the number of its finished requests. -/
theorem series_conserved (ran : run (step sampleLimit) { enabled := true } events = some metrics) :
    -- a name is used in one mode
    (∀ observation observation' : Observation, ∀ sample ∈ observation.samples,
      ∀ sample' ∈ observation'.samples,
        sample.measurement = sample'.measurement → sample.mode = sample'.mode) ∧
    -- no call finds a series of another mode under the name of any of its samples
    (∀ (observation : Observation) (before after : List Sample) (sample : Sample),
      observation.samples = before ++ sample :: after →
        ¬ (valueAt sample.measurement {}
          (before.foldl (addLocked sampleLimit) metrics.series)).Resets sample.mode) ∧
    -- nothing of the counts is lost or doubled
    (∀ action : Bytes,
      metrics.recorded (countSeries (sanitizeSegment action)) =
        events.countP (Event.finishes (sanitizeSegment action)) ∧
      metrics.recorded (countSeries (sanitizeSegment action)) =
        metrics.recorded (successSeries (sanitizeSegment action)) +
          metrics.recorded (errorSeries (sanitizeSegment action))) ∧
    -- and the store gets them as whole numbers
    ∀ point ∈ metrics.written, ∀ action : Bytes,
      countSeries action point.measurement ∨ successSeries action point.measurement ∨
          errorSeries action point.measurement →
        ∃ n : ℕ, point.value = n ∧ point.text = decimal n := by
  have sound := run_sound ran
  refine ⟨?_, ?_, ?_, ?_⟩
  · intro observation observation' sample inside sample' inside' same
    have named := (samples_under observation sample inside).named
    have named' := (samples_under observation' sample' inside').named
    exact named.mode_unique (same ▸ named')
  · intro observation before after sample split
    have under := samples_under observation
    rw [split, List.forall_mem_append, List.forall_mem_cons] at under
    exact (sound.series.foldl sampleLimit under.1).not_resets under.2.1
  · intro action
    have outcome := run_outcome ran (dot_notMem_sanitizeSegment action)
    exact ⟨run_count ran _, (run_count ran _).trans outcome.symm⟩
  · rintro point member action (named | named | named)
    · exact sound.written point member
        ((countSeries_covered action).summing requestCount_listed rfl _ named)
    · exact sound.written point member
        ((successSeries_covered action).summing requestSuccess_listed rfl _ named)
    · exact sound.written point member
        ((errorSeries_covered action).summing requestError_listed rfl _ named)

end Run

/-- A request finishes between the two halves of a flush. -/
def flushBetween : List Event :=
  [.observe (.requestFinish ⟨lit "chat", lit "gpu.0", true, false, false, 0, 12, 3, 5⟩),
    .observe (.queueSnapshot {}), .swap,
    .observe (.requestFinish ⟨lit "chat", [], false, true, false, -41, 30, -1, -1⟩),
    .observe (.queueReject (lit "chat")), .write 0 1000]

theorem series_conserved_flushBetween :
    ∃ metrics, run (step 4096) { enabled := true } flushBetween = some metrics ∧
      metrics.recorded (countSeries (sanitizeSegment (lit "chat"))) = 2 := by
  obtain ⟨metrics, ran⟩ : ∃ metrics, run (step 4096) { enabled := true } flushBetween =
    some metrics := ⟨_, rfl⟩
  obtain ⟨-, -, counts, -⟩ := series_conserved ran
  have finished : flushBetween.countP (Event.finishes (sanitizeSegment (lit "chat"))) = 2 := by
    decide +kernel
  exact ⟨metrics, ran, by rw [(counts (lit "chat")).1, finished, Nat.cast_ofNat]⟩

end VllmRoute.Observability
