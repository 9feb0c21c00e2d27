import VllmRoute.Base
import VllmRoute.Lib.Search

/-!
# The registry of units

`key_sql`, the port table, and the functions of the `sys` server that register
and release units.
-/
namespace VllmRoute.Access

open Lib

structure UnitData where
  workId : Bytes
  outputUrl : Bytes
  inferenceUrl : Bytes
  port : Int
  deriving DecidableEq

/-- What `std::any` holds in `key_sql`. -/
inductive SqlValue where
  | unit (unitP : UnitData)
  | text (val : Bytes)
  | number (val : Int)
  deriving DecidableEq

abbrev KeySql := Bytes → Option SqlValue

/-- `SAFE_READING` into a `unit_data *`: null unless the key holds one. -/
def safeReading (keySql : KeySql) (key : Bytes) : Option UnitData :=
  match keySql key with
  | some (.unit unitP) => some unitP
  | _ => none

/-- There is a unit under this work id. -/
def Registered (keySql : KeySql) (workId : Bytes) : Prop :=
  (safeReading keySql workId).isSome = true

instance (keySql : KeySql) (workId : Bytes) : Decidable (Registered keySql workId) :=
  inferInstanceAs (Decidable (_ = true))

def zmqFormatHead : Bytes := lit "ipc:///tmp/llm/"
def zmqFormatTail : Bytes := lit ".sock"

/-- `zmq_s_format`, cut at its `%i`; the default is that of `master_config.json`. -/
structure ZmqFormat where
  head : Bytes := zmqFormatHead
  tail : Bytes := zmqFormatTail

structure UnitManager where
  keySql : KeySql := fun _ => none
  workIdNumberCounter : Int := 0
  portListStart : Int := 5010
  portList : List Bool := List.replicate 545 false
  zmqSFormat : ZmqFormat := {}

/-- Names of sockets in the file system are told apart by the unit. -/
def ZmqFormat.namesFile (format : ZmqFormat) : Bool :=
  (find (lit "sock") (format.head ++ lit "%i" ++ format.tail)).isSome

def makeUnitZmqUrl (format : ZmqFormat) (unit suffix : Bytes) (port : Int) : Bytes :=
  format.head ++ (decimal port ++
    (format.tail ++ if format.namesFile then lit "." ++ unit ++ suffix else []))

/-- The scan stops at the format's first mismatch; the number has no leading zero. -/
def parseZmqPort (format : ZmqFormat) (url : Bytes) : Option Int :=
  if format.head.isPrefixOf url then stoi (url.drop format.head.length) else none

/-- `sscanf` with the format finds the port that `sprintf` has put in. -/
def ZmqFormat.Inverts (format : ZmqFormat) : Prop :=
  ∀ unit suffix port, intMin ≤ port → port ≤ intMax →
    parseZmqPort format (makeUnitZmqUrl format unit suffix port) = some port

/-- The number ends where the text after it begins. -/
theorem ZmqFormat.inverts_of_tail {format : ZmqFormat} {c : UInt8}
    (first : format.tail.head? = some c) (other : isDigit c = false) : format.Inverts := by
  intro unit suffix port low high
  have opening : format.head.isPrefixOf (makeUnitZmqUrl format unit suffix port) = true :=
    List.isPrefixOf_iff_prefix.mpr (List.prefix_append _ _)
  rw [parseZmqPort, if_pos opening, makeUnitZmqUrl, List.drop_left]
  refine stoi_decimal port _ low high fun d stops => ?_
  obtain ⟨tail, split⟩ : ∃ tail, format.tail = c :: tail := by
    cases tail : format.tail with
    | nil => simp [tail] at first
    | cons d ds =>
      rw [tail, List.head?_cons, Option.some.injEq] at first
      exact ⟨ds, by rw [first]⟩
  obtain rfl : c = d := by simpa [split] using stops
  exact other

/-- What a unit gets a port for. -/
inductive Side where
  | output
  | inference
  deriving DecidableEq

def UnitData.url (unitP : UnitData) : Side → Bytes
  | .output => unitP.outputUrl
  | .inference => unitP.inferenceUrl

namespace UnitManager

def allocateZmqPortLocked (m : UnitManager) : Int × UnitManager :=
  match m.portList.findIdx? (! ·) with
  | some i => (m.portListStart + i, { m with portList := m.portList.set i true })
  | none => (-1, m)

def releaseZmqPortLocked (m : UnitManager) (port : Int) : UnitManager :=
  let index := port - m.portListStart
  if 0 ≤ index ∧ index < m.portList.length then
    { m with portList := m.portList.set index.toNat false }
  else m

def safeSetting (m : UnitManager) (key : Bytes) (val : SqlValue) : UnitManager :=
  { m with keySql := Function.update m.keySql key (some val) }

def safeErase (m : UnitManager) (key : Bytes) : UnitManager :=
  { m with keySql := Function.update m.keySql key none }

def outPortKey (workId : Bytes) : Bytes := workId ++ lit ".out_port"

def sysAllocateUnit (m : UnitManager) (unit : Bytes) : Option UnitData × UnitManager :=
  let (outputPort, m) := m.allocateZmqPortLocked
  let (inferencePort, m) := m.allocateZmqPortLocked
  if outputPort < 0 ∨ inferencePort < 0 then
    -- what was allocated is given back before the failure is reported
    let m := if outputPort ≥ 0 then m.releaseZmqPortLocked outputPort else m
    let m := if inferencePort ≥ 0 then m.releaseZmqPortLocked inferencePort else m
    (none, m)
  else
    -- the counter runs on: numbers of released units are not used again
    let port := m.workIdNumberCounter
    let m := { m with workIdNumberCounter := toInt32 (port + 1) }
    let unitP : UnitData :=
      { workId := unit ++ lit "." ++ decimal port
        outputUrl := makeUnitZmqUrl m.zmqSFormat unit (lit ".output_url") outputPort
        inferenceUrl := makeUnitZmqUrl m.zmqSFormat unit (lit ".inference_url") inferencePort
        port := port }
    let m := m.safeSetting unitP.workId (.unit unitP)
    (some unitP, m.safeSetting (outPortKey unitP.workId) (.text unitP.outputUrl))

/-- The release of the port that a URL names. -/
def releaseUrl (m : UnitManager) (url : Bytes) : UnitManager :=
  match parseZmqPort m.zmqSFormat url with
  | some port => m.releaseZmqPortLocked port
  | none => m

def sysReleaseUnit (m : UnitManager) (unit : Bytes) : Int × UnitManager :=
  match safeReading m.keySql unit with
  | none => (-1, m)
  | some unitP =>
    let m := (m.releaseUrl unitP.outputUrl).releaseUrl unitP.inferenceUrl
    (0, (m.safeErase unit).safeErase (outPortKey unit))

/-! ### What allocation and release do to the registry -/

theorem outPortKey_ne (workId : Bytes) : outPortKey workId ≠ workId := by
  intro same
  have lengths := congrArg List.length same
  have tail : (lit ".out_port").length = 9 := by decide
  rw [outPortKey, List.length_append] at lengths
  omega

variable (m : UnitManager)

theorem registered_safeSetting (key other : Bytes) (val : SqlValue) :
    Registered (m.safeSetting key val).keySql other ↔
      if other = key then ∃ unitP, val = .unit unitP else Registered m.keySql other := by
  by_cases same : other = key
  · subst same
    cases val <;> simp [Registered, safeReading, safeSetting]
  · simp [Registered, safeReading, safeSetting, same]

theorem registered_safeErase (key other : Bytes) :
    Registered (m.safeErase key).keySql other ↔ other ≠ key ∧ Registered m.keySql other := by
  by_cases same : other = key
  · subst same
    simp [Registered, safeReading, safeErase]
  · simp [Registered, safeReading, safeErase, same]

@[simp] theorem releaseUrl_keySql (url : Bytes) : (m.releaseUrl url).keySql = m.keySql := by
  unfold releaseUrl releaseZmqPortLocked
  split
  · dsimp only
    split <;> rfl
  · rfl

/-- The first free port is taken, if there is one. -/
theorem allocateZmqPortLocked_cases :
    (m.portList.count false = 0 ∧ m.allocateZmqPortLocked = (-1, m)) ∨
    ∃ i, m.portList[i]? = some false ∧
      m.allocateZmqPortLocked =
        (m.portListStart + (i : Nat), { m with portList := m.portList.set i true }) ∧
      (m.portList.set i true).count false + 1 = m.portList.count false := by
  unfold allocateZmqPortLocked
  cases found : m.portList.findIdx? (! ·) with
  | none =>
    refine Or.inl ⟨List.count_eq_zero.mpr fun member => ?_, rfl⟩
    simpa using List.findIdx?_eq_none_iff.mp found false member
  | some i =>
    obtain ⟨inside, unused, _⟩ := List.findIdx?_eq_some_iff_getElem.mp found
    have unused : m.portList[i] = false := by simpa using unused
    have free : m.portList[i]? = some false := List.getElem?_eq_some_iff.mpr ⟨inside, unused⟩
    have some : 0 < m.portList.count false := List.count_pos_iff.mpr (List.mem_of_getElem? free)
    have counted : (m.portList.set i true).count false = m.portList.count false - 1 := by
      simp [List.count_set inside, unused]
    exact Or.inr ⟨i, free, rfl, by omega⟩

/-- The release of a port, by its place in the table. -/
theorem releaseZmqPortLocked_slot (i : Nat) :
    m.releaseZmqPortLocked (m.portListStart + i) =
      { m with portList := m.portList.set i false } := by
  have index : m.portListStart + (i : Int) - m.portListStart = i := by omega
  unfold releaseZmqPortLocked
  simp only [index, Int.toNat_natCast]
  split
  · rfl
  next outside =>
    have beyond : m.portList.length ≤ i := by omega
    rw [List.set_eq_of_length_le beyond]

def nextWorkId (unit : Bytes) : Bytes := unit ++ lit "." ++ decimal m.workIdNumberCounter

/-- The unit that an allocation makes. -/
def newUnit (unit : Bytes) (outputPort inferencePort : Int) : UnitData where
  workId := m.nextWorkId unit
  outputUrl := makeUnitZmqUrl m.zmqSFormat unit (lit ".output_url") outputPort
  inferenceUrl := makeUnitZmqUrl m.zmqSFormat unit (lit ".inference_url") inferencePort
  port := m.workIdNumberCounter

/-- The entries of a new unit. -/
def enlist (unitP : UnitData) : UnitManager :=
  ({ m with workIdNumberCounter := toInt32 (unitP.port + 1) }.safeSetting unitP.workId
    (.unit unitP)).safeSetting (outPortKey unitP.workId) (.text unitP.outputUrl)

theorem registered_enlist (unitP : UnitData) (key : Bytes) :
    Registered (m.enlist unitP).keySql key ↔
      key = unitP.workId ∨ key ≠ outPortKey unitP.workId ∧ Registered m.keySql key := by
  rw [enlist, registered_safeSetting, registered_safeSetting]
  -- the text under the second key hides a unit that was there before
  by_cases out : key = outPortKey unitP.workId
  · simp [out, outPortKey_ne]
  · by_cases same : key = unitP.workId
    · simp [same, (outPortKey_ne unitP.workId).symm]
    · simp [out, same]

/-- What an allocation does: nothing with fewer than two free ports, and else it takes two
and enters the unit. -/
theorem sysAllocateUnit_cases (start : 0 ≤ m.portListStart) (unit : Bytes) :
    (m.portList.count false < 2 ∧ m.sysAllocateUnit unit = (none, m)) ∨
    ∃ i j, 2 ≤ m.portList.count false ∧ m.portList[i]? = some false ∧
      (m.portList.set i true)[j]? = some false ∧
      m.sysAllocateUnit unit =
        (some (m.newUnit unit (m.portListStart + (i : Nat)) (m.portListStart + (j : Nat))),
          { m with portList := (m.portList.set i true).set j true }.enlist
            (m.newUnit unit (m.portListStart + (i : Nat)) (m.portListStart + (j : Nat)))) := by
  unfold sysAllocateUnit
  rcases m.allocateZmqPortLocked_cases with ⟨none, first⟩ | ⟨i, free, first, left⟩
  · simp only [first]
    exact Or.inl ⟨by omega, rfl⟩
  · simp only [first]
    have positive : ¬ m.portListStart + (i : Int) < 0 := by omega
    rcases allocateZmqPortLocked_cases { m with portList := m.portList.set i true } with
      ⟨none, second⟩ | ⟨j, free', second, left'⟩
    · -- the only free port is given back
      simp only [second]
      have one : m.portList.count false < 2 := by
        dsimp only at none
        omega
      have again : (m.portList.set i true).set i false = m.portList := by
        obtain ⟨inside, unused⟩ := List.getElem?_eq_some_iff.mp free
        rw [List.set_set, ← unused, List.set_getElem_self inside]
      have released := releaseZmqPortLocked_slot { m with portList := m.portList.set i true } i
      dsimp only at released
      rw [again] at released
      refine Or.inl ⟨one, ?_⟩
      simp [Int.not_lt.mp positive, released]
    · simp only [second]
      have both : ¬ (m.portListStart + (i : Int) < 0 ∨ m.portListStart + (j : Int) < 0) := by omega
      rw [if_neg both]
      exact Or.inr ⟨i, j, by dsimp only at left'; omega, free, free', rfl⟩

/-- What does not change while units come and go: the port range is one of ports, and the
counter is an `int`. -/
structure Configured : Prop where
  start : 0 ≤ m.portListStart
  low : intMin ≤ m.workIdNumberCounter
  high : m.workIdNumberCounter ≤ intMax

variable {m}

theorem sysAllocateUnit_configured (configured : m.Configured) (unit : Bytes) :
    (m.sysAllocateUnit unit).2.Configured := by
  rcases m.sysAllocateUnit_cases configured.start unit with
    ⟨_, failed⟩ | ⟨i, j, _, _, _, allocated⟩
  · rw [failed]
    exact configured
  · rw [allocated]
    exact ⟨configured.start, intMin_le_toInt32 _, toInt32_le_intMax _⟩

/-- With two free ports the unit is registered under the number of the counter. -/
theorem sysAllocateUnit_spec (configured : m.Configured) (roomy : 2 ≤ m.portList.count false)
    (unit : Bytes) :
    ∃ unitP m', m.sysAllocateUnit unit = (some unitP, m') ∧ m'.Configured ∧
      unitP.port = m.workIdNumberCounter ∧
      ∀ key, Registered m'.keySql key ↔
        key = unit ++ lit "." ++ decimal m.workIdNumberCounter ∨
        key ≠ outPortKey (unit ++ lit "." ++ decimal m.workIdNumberCounter) ∧
          Registered m.keySql key := by
  have kept := sysAllocateUnit_configured configured unit
  rcases m.sysAllocateUnit_cases configured.start unit with
    ⟨few, _⟩ | ⟨i, j, _, _, _, allocated⟩
  · omega
  rw [allocated] at kept
  exact ⟨_, _, allocated, kept, rfl, registered_enlist _ _⟩

/-- A release takes the unit out of the registry, if it is there. -/
theorem registered_sysReleaseUnit (unit key : Bytes) :
    Registered (m.sysReleaseUnit unit).2.keySql key ↔ Registered m.keySql key ∧ key ≠ unit ∧
      (Registered m.keySql unit → key ≠ outPortKey unit) := by
  unfold sysReleaseUnit
  cases found : safeReading m.keySql unit with
  | none =>
    -- an unknown unit: nothing happens
    have missing : ¬ Registered m.keySql unit := by simp [Registered, found]
    simp only [missing, false_implies, and_true]
    refine ⟨fun registered => ⟨registered, ?_⟩, And.left⟩
    rintro rfl
    exact missing registered
  | some unitP =>
    -- both keys of the unit go
    have present : Registered m.keySql unit := by simp [Registered, found]
    simp only [registered_safeErase, releaseUrl_keySql, present, true_implies]
    tauto

theorem sysReleaseUnit_configured (configured : m.Configured) (unit : Bytes) :
    (m.sysReleaseUnit unit).2.Configured := by
  have released (m : UnitManager) (configured : m.Configured) (url : Bytes) :
      (m.releaseUrl url).Configured := by
    unfold releaseUrl releaseZmqPortLocked
    split
    · dsimp only
      split
      · exact ⟨configured.start, configured.low, configured.high⟩
      · exact configured
    · exact configured
  unfold sysReleaseUnit
  split
  · exact configured
  next unitP _ =>
    obtain ⟨start, low, high⟩ :=
      released _ (released m configured unitP.outputUrl) unitP.inferenceUrl
    exact ⟨start, low, high⟩

end UnitManager

end VllmRoute.Access
