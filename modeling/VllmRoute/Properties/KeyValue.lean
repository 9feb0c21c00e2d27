import VllmRoute.Access.KeyValue
import VllmRoute.Properties.Registry

/-!
# Keys of units and other keys

What the key/value calls of the `sys` server do to the units: nothing, as long
as they stay away from the keys of units. A registry on which they do mirrors
one without such calls. A unit whose entry they take has lost its ports.
-/
namespace VllmRoute.Access

open Lib

namespace UnitManager

variable {m m' shadow : UnitManager}

/-! ### One call -/

/-- The same units are found and can be released, with the same URLs, and the same ports are
in use. -/
structure SameUnits (m m' : UnitManager) : Prop where
  pushed : ∀ workId jsonStr, Bus.zmqBusPublisherPush m'.keySql workId jsonStr =
    Bus.zmqBusPublisherPush m.keySql workId jsonStr
  released : ∀ workId, (m'.sysReleaseUnit workId).1 = (m.sysReleaseUnit workId).1
  units : ∀ workId, safeReading m'.keySql workId = safeReading m.keySql workId
  ports : m'.portList = m.portList

theorem sysReleaseUnit_fst (m : UnitManager) (unit : Bytes) :
    (m.sysReleaseUnit unit).1 = if (safeReading m.keySql unit).isSome then 0 else -1 := by
  unfold sysReleaseUnit
  cases safeReading m.keySql unit <;> rfl

theorem SameUnits.of_units (units : ∀ workId, safeReading m'.keySql workId =
    safeReading m.keySql workId) (ports : m'.portList = m.portList) : SameUnits m m' where
  pushed workId jsonStr := by
    unfold Bus.zmqBusPublisherPush
    rw [units]
  released workId := by rw [sysReleaseUnit_fst, sysReleaseUnit_fst, units]
  units := units
  ports := ports

/-- An entry that is no unit takes the place of whatever was there. -/
theorem safeReading_update {entry : Option SqlValue} (plain : ∀ unitP, entry ≠ some (.unit unitP))
    (keySql : KeySql) (key other : Bytes) :
    safeReading (Function.update keySql key entry) other =
      if other = key then none else safeReading keySql other := by
  unfold safeReading
  by_cases same : other = key
  · subst same
    rw [Function.update_self, if_pos rfl]
    split
    next unitP => exact absurd rfl (plain unitP)
    next => rfl
  · rw [Function.update_of_ne same, if_neg same]

theorem sameUnits_serve_iff (m : UnitManager) {call : SysCall} (kind : call.isKeyValue = true) :
    SameUnits m (call.serve m).2 ↔ call.Spares m := by
  rcases call.serve_keyValue m kind with ⟨unwritten, same⟩ | ⟨key, entry, written, after, plain⟩
  · rw [same]
    constructor
    · intro _ key member
      rw [unwritten] at member
      cases member
    · exact fun _ => .of_units (fun _ => rfl) rfl
  · rw [after]
    constructor
    · intro same key' member registered
      obtain rfl : key = key' := Option.some.inj (written.symm.trans member)
      -- the unit would still have to be found
      have found := same.units key
      rw [safeReading_update plain, if_pos rfl] at found
      rw [Registered, ← found] at registered
      cases registered
    · intro spares
      have free : safeReading m.keySql key = none :=
        Option.not_isSome_iff_eq_none.mp (spares key written)
      refine .of_units (fun workId => ?_) rfl
      rw [safeReading_update plain]
      split
      next same => rw [same, free]
      next => rfl

/-! ### A registry without such calls -/

/-- The two registries are the same up to entries that are no units. -/
structure Mirrors (m shadow : UnitManager) : Prop where
  rest : m = { shadow with keySql := m.keySql }
  units : ∀ key, safeReading m.keySql key = safeReading shadow.keySql key

theorem releaseZmqPortLocked_keySql (m : UnitManager) (keySql : KeySql) (port : Int) :
    { m with keySql := keySql }.releaseZmqPortLocked port =
      { m.releaseZmqPortLocked port with keySql := keySql } := by
  unfold releaseZmqPortLocked
  dsimp only
  split <;> rfl

theorem allocateZmqPortLocked_keySql (m : UnitManager) (keySql : KeySql) :
    { m with keySql := keySql }.allocateZmqPortLocked =
      (m.allocateZmqPortLocked.1, { m.allocateZmqPortLocked.2 with keySql := keySql }) := by
  unfold allocateZmqPortLocked
  dsimp only
  cases m.portList.findIdx? (! ·) <;> rfl

/-- Allocation does not look at the map. -/
theorem sysAllocateUnit_keySql (m : UnitManager) (keySql : KeySql) (unit : Bytes) :
    { m with keySql := keySql }.sysAllocateUnit unit = ((m.sysAllocateUnit unit).1,
      { (m.sysAllocateUnit unit).2 with
        keySql := match (m.sysAllocateUnit unit).1 with
          | none => keySql
          | some unitP =>
            Function.update (Function.update keySql unitP.workId (some (.unit unitP)))
              (outPortKey unitP.workId) (some (.text unitP.outputUrl)) }) := by
  unfold sysAllocateUnit
  simp only [allocateZmqPortLocked_keySql]
  generalize m.allocateZmqPortLocked = first
  generalize first.2.allocateZmqPortLocked = second
  by_cases failed : first.1 < 0 ∨ second.1 < 0
  · simp only [if_pos failed]
    by_cases output : first.1 ≥ 0 <;> by_cases inference : second.1 ≥ 0 <;>
      simp only [output, inference, if_true, if_false, releaseZmqPortLocked_keySql]
  · simp only [if_neg failed]
    rfl

/-- One entry on both sides. -/
theorem agree_update {k k' : KeySql} (agree : ∀ key, safeReading k key = safeReading k' key)
    (key : Bytes) (entry : Option SqlValue) (other : Bytes) :
    safeReading (Function.update k key entry) other =
      safeReading (Function.update k' key entry) other := by
  by_cases same : other = key
  · subst same
    simp [safeReading]
  · have old := agree other
    simpa [safeReading, same] using old

theorem Mirrors.allocate (mirrors : Mirrors m shadow) (unit : Bytes) :
    Mirrors (m.sysAllocateUnit unit).2 (shadow.sysAllocateUnit unit).2 := by
  have own := sysAllocateUnit_keySql shadow shadow.keySql unit
  have other := sysAllocateUnit_keySql shadow m.keySql unit
  rw [← mirrors.rest] at other
  constructor
  · rw [other]
  · intro key
    rw [other, own]
    dsimp only
    cases (shadow.sysAllocateUnit unit).1 with
    | none => exact mirrors.units key
    | some unitP => exact agree_update (agree_update mirrors.units _ _) _ _ key

theorem Mirrors.releaseUrl (mirrors : Mirrors m shadow) (url : Bytes) :
    Mirrors (m.releaseUrl url) (shadow.releaseUrl url) := by
  constructor
  · rw [releaseUrl_keySql]
    conv_lhs => rw [mirrors.rest]
    unfold UnitManager.releaseUrl
    cases parseZmqPort shadow.zmqSFormat url with
    | none => rfl
    | some port => exact releaseZmqPortLocked_keySql shadow m.keySql port
  · intro key
    rw [releaseUrl_keySql, releaseUrl_keySql]
    exact mirrors.units key

theorem Mirrors.safeErase (mirrors : Mirrors m shadow) (key : Bytes) :
    Mirrors (m.safeErase key) (shadow.safeErase key) := by
  constructor
  · unfold UnitManager.safeErase
    dsimp only
    conv_lhs => rw [mirrors.rest]
  · exact agree_update mirrors.units key none

theorem Mirrors.release (mirrors : Mirrors m shadow) (unit : Bytes) :
    Mirrors (m.sysReleaseUnit unit).2 (shadow.sysReleaseUnit unit).2 := by
  unfold sysReleaseUnit
  rw [mirrors.units unit]
  cases safeReading shadow.keySql unit with
  | none => exact mirrors
  | some unitP =>
    exact (((mirrors.releaseUrl _).releaseUrl _).safeErase _).safeErase _

/-- A call that stays away from the units needs no counterpart. -/
theorem Mirrors.keyValue (mirrors : Mirrors m shadow) {call : SysCall}
    (kind : call.isKeyValue = true) (spares : call.Spares m) :
    Mirrors (call.serve m).2 shadow := by
  have same := (sameUnits_serve_iff m kind).mpr spares
  constructor
  · rcases call.serve_keyValue m kind with ⟨_, after⟩ | ⟨key, entry, _, after, _⟩
    · rw [after]
      exact mirrors.rest
    · rw [after]
      dsimp only
      rw [mirrors.rest]
  · exact fun key => (same.units key).trans (mirrors.units key)

theorem Mirrors.holds_iff (mirrors : Mirrors m shadow) (x : Bytes × Side) (i : Nat) :
    m.Holds x i ↔ shadow.Holds x i := by
  unfold Holds
  rw [mirrors.units, mirrors.rest]

/-- The registry mirrors one that has seen nothing but `n` registrations and their releases. -/
def Mirrored (c : Int) (n : Nat) (m : UnitManager) : Prop :=
  ∃ shadow : UnitManager, shadow.Exact c n ∧ Mirrors m shadow

theorem Mirrored.serve {c : Int} {n : Nat} (mirrored : m.Mirrored c n) (few : n < 2 ^ 32)
    {call : SysCall} (spares : call.Spares m) :
    ∃ n' ≤ n + (if call.isRegister then 1 else 0), (call.serve m).2.Mirrored c n' := by
  obtain ⟨shadow, exact, mirrors⟩ := mirrored
  cases call with
  | registerUnit unit =>
    obtain ⟨n', grown, exact'⟩ := exact.allocate few unit
    exact ⟨n', grown, _, exact', mirrors.allocate unit⟩
  | releaseUnit raw => exact ⟨n, Nat.le_refl n, _, exact.release raw, mirrors.release raw⟩
  | sqlSelect raw => exact ⟨n, Nat.le_refl n, _, exact, mirrors.keyValue rfl spares⟩
  | sqlSet raw => exact ⟨n, Nat.le_refl n, _, exact, mirrors.keyValue rfl spares⟩
  | sqlUnset raw => exact ⟨n, Nat.le_refl n, _, exact, mirrors.keyValue rfl spares⟩

/-! ### Ports that can be released, and ports that cannot -/

/-- Some unit can be released, and the port is free then. -/
def Releasable (m : UnitManager) (i : Nat) : Prop :=
  ∃ workId, (m.sysReleaseUnit workId).1 = 0 ∧
    (m.sysReleaseUnit workId).2.portList[i]? = some false

/-- The port is in use, and no unit has it. -/
def Lost (m : UnitManager) (i : Nat) : Prop :=
  m.portList[i]? = some true ∧ ∀ x, ¬ m.Holds x i

theorem Mirrored.releasable {c : Int} {n : Nat} (mirrored : m.Mirrored c n) {i : Nat}
    (used : m.portList[i]? = some true) : m.Releasable i := by
  obtain ⟨shadow, exact, mirrors⟩ := mirrored
  rw [mirrors.rest] at used
  obtain ⟨⟨workId, side⟩, held⟩ := exact.allHeld i used
  refine ⟨workId, ?_, ?_⟩
  · obtain ⟨unitP, found, _⟩ := held
    rw [sysReleaseUnit_fst, mirrors.units, found]
    rfl
  · rw [(mirrors.release workId).rest]
    exact (exact.release_frees workId).ports side i held

theorem releaseUrl_frame (m : UnitManager) (url : Bytes) :
    ∃ portList, m.releaseUrl url = { m with portList := portList } ∧
      portList.length = m.portList.length ∧
      ∀ i : Nat, parseZmqPort m.zmqSFormat url ≠ some (m.portListStart + i) →
        portList[i]? = m.portList[i]? := by
  unfold releaseUrl
  cases parsed : parseZmqPort m.zmqSFormat url with
  | none => exact ⟨m.portList, rfl, rfl, fun _ _ => rfl⟩
  | some port =>
    dsimp only [releaseZmqPortLocked]
    split
    next inside =>
      refine ⟨_, rfl, List.length_set, fun i other => List.getElem?_set_ne fun same => other ?_⟩
      congr 1
      omega
    next => exact ⟨m.portList, rfl, rfl, fun _ _ => rfl⟩

/-- What a release can do in any state: units disappear, and ports of the unit are freed. -/
theorem sysReleaseUnit_frame (m : UnitManager) (unit : Bytes) :
    ∃ keySql portList,
      (m.sysReleaseUnit unit).2 = { m with keySql := keySql, portList := portList } ∧
      portList.length = m.portList.length ∧
      (∀ i, (∀ side, ¬ m.Holds (unit, side) i) → portList[i]? = m.portList[i]?) ∧
      ∀ key unitP, safeReading keySql key = some unitP →
        safeReading m.keySql key = some unitP := by
  unfold sysReleaseUnit
  cases found : safeReading m.keySql unit with
  | none => exact ⟨m.keySql, m.portList, rfl, rfl, fun _ _ => rfl, fun _ _ => id⟩
  | some unitP =>
    obtain ⟨first, output, length, others⟩ := m.releaseUrl_frame unitP.outputUrl
    obtain ⟨second, inference, length', others'⟩ :=
      releaseUrl_frame { m with portList := first } unitP.inferenceUrl
    refine ⟨((m.safeErase unit).safeErase (outPortKey unit)).keySql, second, ?_,
      length'.trans length, ?_, ?_⟩
    · dsimp only
      rw [output, inference]
      rfl
    · intro i free
      exact (others' i fun port => free .inference ⟨unitP, found, port⟩).trans
        (others i fun port => free .output ⟨unitP, found, port⟩)
    · intro key unitP' read
      exact (reading_delist (i := 0) (j := 0) read).2

theorem Lost.not_releasable {i : Nat} (lost : m.Lost i) : ¬ m.Releasable i := by
  rintro ⟨workId, _, free⟩
  obtain ⟨_, portList, released, _, others, _⟩ := m.sysReleaseUnit_frame workId
  rw [released] at free
  have used := (others i fun side => lost.2 _).trans lost.1
  cases used.symm.trans free

theorem Lost.register (framed : m.Framed) {i : Nat} (lost : m.Lost i) (unit : Bytes) :
    (m.sysAllocateUnit unit).2.Lost i := by
  rcases m.sysAllocateUnit_cases framed.start unit with
    ⟨_, failed⟩ | ⟨k, l, _, free, free', allocated⟩
  · rw [failed]
    exact lost
  rw [allocated]
  have first := (List.getElem?_eq_some_iff.mp free).1
  have second : l < m.portList.length := by simpa using (List.getElem?_eq_some_iff.mp free').1
  -- both ports of the new unit were free
  have notFirst : k ≠ i := by
    rintro rfl
    cases lost.1.symm.trans free
  have notSecond : l ≠ i := by
    rintro rfl
    rw [List.getElem?_set_ne notFirst] at free'
    cases lost.1.symm.trans free'
  constructor
  · change ((m.portList.set k true).set l true)[i]? = some true
    rw [List.getElem?_set_ne notSecond, List.getElem?_set_ne notFirst, lost.1]
  · intro x held
    rcases (holds_enlist_iff framed first second unit _ x i).mp held with
      ⟨_, here⟩ | ⟨_, here⟩ | ⟨_, _, old⟩
    · exact notSecond here.symm
    · exact notFirst here.symm
    · exact lost.2 x old

theorem Lost.release {i : Nat} (lost : m.Lost i) (unit : Bytes) :
    (m.sysReleaseUnit unit).2.Lost i := by
  obtain ⟨_, _, released, _, others, fewer⟩ := m.sysReleaseUnit_frame unit
  rw [released]
  constructor
  · exact (others i fun side => lost.2 _).trans lost.1
  · rintro x ⟨unitP, found, port⟩
    exact lost.2 x ⟨unitP, fewer _ _ found, port⟩

theorem Lost.keyValue {i : Nat} (lost : m.Lost i) {call : SysCall}
    (kind : call.isKeyValue = true) : (call.serve m).2.Lost i := by
  rcases call.serve_keyValue m kind with ⟨_, same⟩ | ⟨key, entry, _, after, plain⟩
  · rw [same]
    exact lost
  · rw [after]
    refine ⟨lost.1, ?_⟩
    rintro x ⟨unitP, found, port⟩
    rw [safeReading_update plain] at found
    split at found
    · cases found
    · exact lost.2 x ⟨unitP, found, port⟩

/-- No call finds the port again. -/
theorem Lost.serve (framed : m.Framed) {i : Nat} (lost : m.Lost i) (call : SysCall) :
    (call.serve m).2.Lost i := by
  cases call with
  | registerUnit unit => exact lost.register framed unit
  | releaseUnit raw => exact lost.release raw
  | sqlSelect raw => exact lost.keyValue rfl
  | sqlSet raw => exact lost.keyValue rfl
  | sqlUnset raw => exact lost.keyValue rfl

theorem Framed.release (framed : m.Framed) (unit : Bytes) : (m.sysReleaseUnit unit).2.Framed := by
  obtain ⟨_, _, released, length, _⟩ := m.sysReleaseUnit_frame unit
  rw [released]
  refine ⟨⟨framed.start, framed.low, framed.high⟩, ?_, framed.inverts⟩
  dsimp only
  rw [length]
  exact framed.fits

theorem Framed.keyValue (framed : m.Framed) {call : SysCall} (kind : call.isKeyValue = true) :
    (call.serve m).2.Framed := by
  rcases call.serve_keyValue m kind with ⟨_, same⟩ | ⟨_, _, _, after, _⟩
  · rw [same]
    exact framed
  · rw [after]
    exact ⟨⟨framed.start, framed.low, framed.high⟩, framed.fits, framed.inverts⟩

theorem Framed.serve (framed : m.Framed) (call : SysCall) : (call.serve m).2.Framed := by
  cases call with
  | registerUnit unit => exact framed.allocate unit
  | releaseUnit raw => exact framed.release raw
  | sqlSelect raw => exact framed.keyValue rfl
  | sqlSet raw => exact framed.keyValue rfl
  | sqlUnset raw => exact framed.keyValue rfl

theorem Lost.run (framed : m.Framed) {i : Nat} (lost : m.Lost i) (calls : List SysCall)
    (reached : Lib.run SysCall.step m calls = some m') : m'.Lost i := by
  refine (run_invariant SysCall.step (fun m => m.Framed ∧ m.Lost i) ?_ m m' calls reached
    ⟨framed, lost⟩).2
  intro s call s' taken inv
  cases taken
  exact ⟨inv.1.serve call, inv.2.serve inv.1 call⟩

theorem Mirrored.framed {c : Int} {n : Nat} (mirrored : m.Mirrored c n) : m.Framed := by
  obtain ⟨shadow, exact, mirrors⟩ := mirrored
  rw [mirrors.rest]
  exact ⟨⟨exact.start, exact.low, exact.high⟩, exact.fits, exact.inverts⟩

/-- The unit whose entry is taken leaves its ports behind. -/
theorem Mirrored.loses {c : Int} {n : Nat} (mirrored : m.Mirrored c n) {call : SysCall}
    (kind : call.isKeyValue = true) (hit : ¬ call.Spares m) :
    ∃ i, (call.serve m).2.Lost i := by
  obtain ⟨shadow, exact, mirrors⟩ := mirrored
  rcases call.serve_keyValue m kind with ⟨unwritten, _⟩ | ⟨key, entry, written, after, plain⟩
  · refine absurd (fun key member => ?_) hit
    rw [unwritten] at member
    cases member
  have registered : Registered m.keySql key := by
    by_contra free
    refine hit fun key' member => ?_
    obtain rfl : key = key' := Option.some.inj (written.symm.trans member)
    exact free
  obtain ⟨unitP, found⟩ := Option.isSome_iff_exists.mp registered
  rw [mirrors.units] at found
  obtain ⟨i, held⟩ := exact.ported found .output
  rw [after]
  refine ⟨i, ?_, ?_⟩
  · rw [mirrors.rest]
    exact exact.slots.marked held
  · rintro x ⟨unitP', found', port⟩
    rw [safeReading_update plain] at found'
    split at found'
    · cases found'
    next other =>
      have held' : shadow.Holds x i := (mirrors.holds_iff x i).mp ⟨unitP', found', port⟩
      exact other (congrArg Prod.fst (exact.slots.distinct held' held))

/-- Every port in use can be released after a run, if and only if no call of the run has taken
the entry of a unit. -/
theorem Mirrored.run_releasable_iff {c : Int} {n : Nat} (mirrored : m.Mirrored c n)
    (calls : List SysCall) (few : n + calls.countP (·.isRegister) < 2 ^ 32)
    (reached : Lib.run SysCall.step m calls = some m') :
    (∀ i, m'.portList[i]? = some true → m'.Releasable i) ↔
      Along SysCall.step (fun m call _ => call.Spares m) m calls := by
  induction calls generalizing m n with
  | nil =>
    cases reached
    exact ⟨fun _ => trivial, fun _ i => mirrored.releasable⟩
  | cons call calls ih =>
    obtain ⟨m₁, taken, rest⟩ := (run_cons_iff SysCall.step m m' call calls).mp reached
    rw [List.countP_cons] at few
    by_cases spares : call.Spares m
    · obtain ⟨n', grown, mirrored'⟩ := mirrored.serve (by omega) spares
      cases taken
      rw [ih mirrored' (by omega) rest]
      exact ⟨along_cons rfl spares, fun along => (along _ rfl).2⟩
    · have kind := SysCall.isKeyValue_of_not_spares spares
      obtain ⟨i, lost⟩ := mirrored.loses kind spares
      -- the port stays lost to the end of the run
      obtain ⟨j, lost⟩ : ∃ j, m'.Lost j := by
        cases taken
        exact ⟨i, lost.run (mirrored.framed.keyValue kind) calls rest⟩
      refine ⟨fun all => absurd (all j lost.1) lost.not_releasable, fun along => ?_⟩
      exact absurd (along _ taken).1 spares

/-- In every state that the calls of the `sys` server lead to, a key/value call leaves the units
and their ports alone, if and only if the entry it writes is no unit. After any run of calls,
every port in use can be released by the work id of a unit, if and only if all key/value calls
of the run were such calls. -/
theorem keyValue_leaves_units_iff (m₀ : UnitManager) (fresh : m₀.Fresh)
    (inverts : m₀.zmqSFormat.Inverts) (calls : List SysCall)
    (few : calls.countP (·.isRegister) < 2 ^ 32) (m : UnitManager)
    (reached : Lib.run SysCall.step m₀ calls = some m) :
    (∀ call : SysCall, call.isKeyValue = true →
      (SameUnits m (call.serve m).2 ↔ call.Spares m)) ∧
    ((∀ i, m.portList[i]? = some true → m.Releasable i) ↔
      Along SysCall.step (fun m call _ => call.Spares m) m₀ calls) := by
  have mirrored : m₀.Mirrored m₀.workIdNumberCounter 0 :=
    ⟨m₀, fresh.exact inverts, rfl, fun _ => rfl⟩
  constructor
  · exact fun call kind => sameUnits_serve_iff m kind
  · apply mirrored.run_releasable_iff calls _ reached
    omega

theorem llm_no_percent : chr '%' ∉ lit "llm" := by decide

/-- A unit and a value under a key of its own. -/
def unitAndValue : List SysCall :=
  [.registerUnit ⟨lit "llm", llm_no_percent⟩,
    .sqlSet (lit "\x7b\"key\": \"k\", \"val\": \"v\"\x7d")]

theorem keyValue_leaves_units_iff_value :
    ∃ m, Lib.run SysCall.step {} unitAndValue = some m ∧ m.sysSqlSelect (lit "k") = lit "v" ∧
      m.portList[1]? = some true ∧ m.Releasable 1 := by
  have facts : (Lib.run SysCall.step {} unitAndValue).map (fun m =>
      decide (m.sysSqlSelect (lit "k") = lit "v" ∧ m.portList[1]? = some true)) = some true := by
    decide +kernel
  obtain ⟨m, reached, holds⟩ := Option.map_eq_some_iff.mp facts
  rw [decide_eq_true_eq] at holds
  have spared : Along SysCall.step (fun m call _ => call.Spares m) {} unitAndValue := by
    intro m₁ first
    cases first
    refine ⟨by decide, fun m₂ second => ?_⟩
    cases second
    exact ⟨by decide +kernel, trivial⟩
  have released := (keyValue_leaves_units_iff {} fresh_default inverts_default unitAndValue
    (by decide) m reached).2.mpr spared
  exact ⟨m, reached, holds.1, holds.2, released 1 holds.2⟩

/-- A unit whose work id is then taken for a key. -/
def unitUnset : List SysCall :=
  [.registerUnit ⟨lit "llm", llm_no_percent⟩, .sqlUnset (lit "llm.0")]

theorem unitUnset_keys {m : UnitManager} (reached : Lib.run SysCall.step {} unitUnset = some m)
    (workId : Bytes) : ¬ Registered m.keySql workId := by
  have roomy : 2 ≤ ({} : UnitManager).portList.count false := by
    rw [List.count_replicate]
    decide
  obtain ⟨unitP, m₁, allocated, _, _, registered⟩ :=
    sysAllocateUnit_spec fresh_default.toConfigured roomy (lit "llm")
  have entered : (({} : UnitManager).sysAllocateUnit (lit "llm")).2 = m₁ :=
    congrArg Prod.snd allocated
  have last : m = m₁.safeErase (lit "llm.0") := by
    rw [← entered]
    exact (Option.some.inj reached).symm
  rw [last, registered_safeErase, registered]
  rintro ⟨other, here | ⟨_, before⟩⟩
  · exact other here
  · exact absurd before (by simp [Registered, fresh_default.noUnits])

/-- The unit is not found any more, nothing can be released, and its two ports stay in use. -/
theorem unset_unit_loses_ports :
    ∃ m, Lib.run SysCall.step {} unitUnset = some m ∧
      (Bus.zmqBusPublisherPush m.keySql (lit "llm.0") (lit "json")).2 = [] ∧
      m.portList[0]? = some true ∧ m.portList[1]? = some true ∧
      ∀ workId, (m.sysReleaseUnit workId).1 = -1 := by
  have facts : (Lib.run SysCall.step {} unitUnset).map (fun m =>
      decide ((Bus.zmqBusPublisherPush m.keySql (lit "llm.0") (lit "json")).2 = [] ∧
        m.portList[0]? = some true ∧ m.portList[1]? = some true)) = some true := by
    decide +kernel
  obtain ⟨m, reached, holds⟩ := Option.map_eq_some_iff.mp facts
  rw [decide_eq_true_eq] at holds
  refine ⟨m, reached, holds.1, holds.2.1, holds.2.2, fun workId => ?_⟩
  rw [sysReleaseUnit_fst]
  exact if_neg (unitUnset_keys reached workId)

end UnitManager

end VllmRoute.Access
