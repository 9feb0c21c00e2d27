import VllmRoute.Access.Registry
import VllmRoute.Lib.Run
import VllmRoute.Lib.Slots

/-!
# Units and their ports

The port table against the units in `key_sql`: the ports of a unit are those that
its two URLs are parsed back to. Every allocation and release keeps the two in
step, whatever else is in the map.
-/
namespace VllmRoute.Access

open Lib

/-! ### Work ids -/

/-- The number of a work id stands after its last dot. -/
theorem workId_number {a b : Bytes} {m n : Int}
    (same : a ++ lit "." ++ decimal m = b ++ lit "." ++ decimal n) : m = n := by
  have last (a : Bytes) (n : Int) :
      (a ++ lit "." ++ decimal n).reverse.takeWhile (· ≠ chr '.') = (decimal n).reverse := by
    have dot : lit "." = [chr '.'] := by decide
    have noDot : ∀ c ∈ (decimal n).reverse, decide (c ≠ chr '.') = true := by
      intro c member
      have kind := decimal_bytes (List.mem_reverse.mp member)
      simp only [decide_eq_true_eq]
      rintro rfl
      revert kind
      decide
    rw [dot, List.reverse_append, List.takeWhile_append_of_pos noDot]
    simp
  have digits : (decimal m).reverse = (decimal n).reverse := by
    rw [← last a m, ← last b n, same]
  exact decimal_injective (List.reverse_injective digits)

/-- A work id ends with a digit, the key of an output port with a letter. -/
theorem workId_ne_outPortKey (unit key : Bytes) (n : Int) :
    unit ++ lit "." ++ decimal n ≠ UnitManager.outPortKey key := by
  intro same
  have ending : (UnitManager.outPortKey key).getLast? = some (chr 't') := by
    have suffix : lit ".out_port" = lit ".out_por" ++ [chr 't'] := by decide
    rw [UnitManager.outPortKey, suffix, ← List.append_assoc, List.getLast?_concat]
  -- the last character of a work id is its dot or one of its number
  have dot : lit "." = [chr '.'] := by decide
  have member : chr 't' ∈ chr '.' :: decimal n := by
    refine List.mem_of_getLast? (a := chr 't') ?_
    rw [← ending, ← same, dot, List.append_assoc, List.singleton_append, List.getLast?_append,
      List.getLast?_cons, Option.some_or]
  rcases List.mem_cons.mp member with here | digit
  · exact absurd here (by decide)
  · rcases decimal_bytes digit with sign | digit
    · exact absurd sign (by decide)
    · exact absurd digit (by decide)

namespace UnitManager

variable {m : UnitManager}

/-- The port in this place of the table is one of the unit under the key. -/
def Holds (m : UnitManager) (x : Bytes × Side) (i : Nat) : Prop :=
  ∃ unitP, safeReading m.keySql x.1 = some unitP ∧
    parseZmqPort m.zmqSFormat (unitP.url x.2) = some (m.portListStart + i)

theorem Holds.unique {x : Bytes × Side} {i j : Nat} (first : m.Holds x i) (second : m.Holds x j) :
    i = j := by
  obtain ⟨unitP, found, port⟩ := first
  obtain ⟨unitP', found', port'⟩ := second
  obtain rfl : unitP = unitP' := Option.some.inj (found.symm.trans found')
  have same := Option.some.inj (port.symm.trans port')
  omega

/-- The port range is one of ports, up to its end, and a port can be read back from a URL. -/
structure Framed (m : UnitManager) : Prop extends m.Configured where
  fits : m.portListStart + m.portList.length ≤ intMax
  inverts : m.zmqSFormat.Inverts

/-- What every allocation and every release keeps. -/
structure Sound (m : UnitManager) : Prop extends m.Framed where
  slots : Slots m.portList m.Holds
  ported : ∀ {key unitP}, safeReading m.keySql key = some unitP →
    ∀ side, ∃ i, m.Holds (key, side) i
  named : ∀ {key unitP}, safeReading m.keySql key = some unitP →
    unitP.workId = key ∧ ∃ unit, key = unit ++ lit "." ++ decimal unitP.port
  outPort : ∀ {key unitP}, safeReading m.keySql key = some unitP →
    m.keySql (outPortKey key) = some (.text unitP.outputUrl)

/-! ### Allocation -/

theorem safeReading_enlist (m : UnitManager) (unitP : UnitData) (key : Bytes) :
    safeReading (m.enlist unitP).keySql key =
      if key = outPortKey unitP.workId then none
      else if key = unitP.workId then some unitP else safeReading m.keySql key := by
  by_cases out : key = outPortKey unitP.workId
  · simp [safeReading, enlist, safeSetting, out]
  · by_cases same : key = unitP.workId
    · simp [safeReading, enlist, safeSetting, same, (outPortKey_ne unitP.workId).symm]
    · simp [safeReading, enlist, safeSetting, out, same]

/-- A unit that is found after the entry is the new one or was there before. -/
theorem reading_enlist {unitP unitP' : UnitData} {key : Bytes}
    (found : safeReading (m.enlist unitP).keySql key = some unitP') :
    key ≠ outPortKey unitP.workId ∧
      ((key = unitP.workId ∧ unitP = unitP') ∨
        (key ≠ unitP.workId ∧ safeReading m.keySql key = some unitP')) := by
  rw [safeReading_enlist] at found
  split at found
  · cases found
  next out =>
    split at found
    next same => exact ⟨out, Or.inl ⟨same, Option.some.inj found⟩⟩
    next other => exact ⟨out, Or.inr ⟨other, found⟩⟩

/-- The ports of the new unit are those in its URLs, and the others keep theirs. -/
theorem holds_enlist_iff (framed : m.Framed) {i j : Nat} (first : i < m.portList.length)
    (second : j < m.portList.length) (unit : Bytes) (portList : List Bool) (x : Bytes × Side)
    (l : Nat) :
    ({ m with portList := portList }.enlist
        (m.newUnit unit (m.portListStart + i) (m.portListStart + j))).Holds x l ↔
      (x = (m.nextWorkId unit, .inference) ∧ l = j) ∨
      (x = (m.nextWorkId unit, .output) ∧ l = i) ∨
      (x.1 ≠ m.nextWorkId unit ∧
        x.1 ≠ outPortKey (m.nextWorkId unit) ∧ m.Holds x l) := by
  have start := framed.start
  have fits := framed.fits
  have port (suffix : Bytes) (k : Nat) (inside : k < m.portList.length) :
      parseZmqPort m.zmqSFormat (makeUnitZmqUrl m.zmqSFormat unit suffix (m.portListStart + k)) =
        some (m.portListStart + l) ↔ l = k := by
    rw [framed.inverts unit suffix _ (by unfold intMin; omega) (by omega), Option.some.injEq]
    omega
  obtain ⟨key, side⟩ := x
  unfold Holds
  rw [safeReading_enlist]
  change (∃ unitP, (if key = outPortKey (m.nextWorkId unit) then none
    else if key = m.nextWorkId unit then _ else _) = some unitP ∧ _) ↔ _
  by_cases out : key = outPortKey (m.nextWorkId unit)
  · subst out
    rw [if_pos rfl]
    simp [outPortKey_ne]
  · rw [if_neg out]
    by_cases same : key = m.nextWorkId unit
    · subst same
      rw [if_pos rfl]
      simp only [Option.some.injEq, exists_eq_left']
      cases side with
      | output => exact (port (lit ".output_url") i first).trans (by simp)
      | inference => exact (port (lit ".inference_url") j second).trans (by simp)
    · rw [if_neg same]
      simp only [Prod.mk.injEq, same, false_and, ne_eq, not_false_eq_true, out, true_and, false_or]
      exact Iff.rfl

/-- No unit stands under the key of an output port. -/
theorem Sound.outPortKey_free (sound : m.Sound) (key : Bytes) :
    safeReading m.keySql (outPortKey key) = none := by
  cases found : safeReading m.keySql (outPortKey key) with
  | none => rfl
  | some unitP =>
    obtain ⟨_, unit, split⟩ := sound.named found
    exact absurd split.symm (workId_ne_outPortKey unit key _)

theorem Sound.ne_outPortKey (sound : m.Sound) {key : Bytes} {unitP : UnitData}
    (found : safeReading m.keySql key = some unitP) (other : Bytes) : key ≠ outPortKey other := by
  rintro rfl
  rw [sound.outPortKey_free] at found
  cases found

theorem keySql_enlist_outPortKey {unitP : UnitData} {key : Bytes}
    (other : unitP.workId ≠ outPortKey key) :
    (m.enlist unitP).keySql (outPortKey key) =
      if key = unitP.workId then some (.text unitP.outputUrl) else m.keySql (outPortKey key) := by
  by_cases same : key = unitP.workId
  · simp [enlist, safeSetting, same]
  · have apart : outPortKey key ≠ outPortKey unitP.workId :=
      fun equal => same (List.append_cancel_right equal)
    simp [enlist, safeSetting, same, apart, Ne.symm other]

theorem Framed.allocate (framed : m.Framed) (unit : Bytes) :
    (m.sysAllocateUnit unit).2.Framed := by
  have configured := sysAllocateUnit_configured framed.toConfigured unit
  rcases m.sysAllocateUnit_cases framed.start unit with
    ⟨_, failed⟩ | ⟨i, j, _, _, _, allocated⟩
  · rw [failed]
    exact framed
  · rw [allocated] at configured ⊢
    refine ⟨configured, ?_, framed.inverts⟩
    simpa [enlist, safeSetting] using framed.fits

theorem Sound.allocate (sound : m.Sound) (unit : Bytes) : (m.sysAllocateUnit unit).2.Sound := by
  have framed := sound.toFramed.allocate unit
  rcases m.sysAllocateUnit_cases sound.start unit with
    ⟨_, failed⟩ | ⟨i, j, _, free, free', allocated⟩
  · rw [failed]
    exact sound
  rw [allocated] at framed ⊢
  have first := (List.getElem?_eq_some_iff.mp free).1
  have second : j < m.portList.length := by simpa using (List.getElem?_eq_some_iff.mp free').1
  have holds := holds_enlist_iff sound.toFramed first second unit
    ((m.portList.set i true).set j true)
  refine ⟨framed, ?_, ?_, ?_, ?_⟩
  · -- both slots were free, so nobody held them
    refine ((sound.slots.take free (m.nextWorkId unit, .output)).take free'
      (m.nextWorkId unit, .inference)).mono fun x l held => ?_
    rcases (holds x l).mp held with new | new | ⟨_, _, old⟩
    · exact Or.inl new
    · exact Or.inr (Or.inl new)
    · exact Or.inr (Or.inr old)
  · intro key unitP found side
    obtain ⟨out, ⟨rfl, rfl⟩ | ⟨other, old⟩⟩ := reading_enlist found
    · cases side with
      | output => exact ⟨i, (holds _ i).mpr (Or.inr (Or.inl ⟨rfl, rfl⟩))⟩
      | inference => exact ⟨j, (holds _ j).mpr (Or.inl ⟨rfl, rfl⟩)⟩
    · obtain ⟨l, held⟩ := sound.ported old side
      exact ⟨l, (holds _ l).mpr (Or.inr (Or.inr ⟨other, out, held⟩))⟩
  · intro key unitP found
    obtain ⟨_, ⟨rfl, rfl⟩ | ⟨_, old⟩⟩ := reading_enlist found
    · exact ⟨rfl, unit, rfl⟩
    · exact sound.named old
  · intro key unitP found
    rw [keySql_enlist_outPortKey (workId_ne_outPortKey unit key _)]
    obtain ⟨_, ⟨same, rfl⟩ | ⟨other, old⟩⟩ := reading_enlist found
    · rw [if_pos same]
    · rw [if_neg other]
      exact sound.outPort old

/-! ### Release -/

/-- The map and the table after the release of a unit. -/
def delist (m : UnitManager) (unit : Bytes) (i j : Nat) : UnitManager :=
  ({ m with portList := (m.portList.set i false).set j false }.safeErase unit).safeErase
    (outPortKey unit)

theorem keySql_delist (m : UnitManager) (unit key : Bytes) (i j : Nat) :
    (m.delist unit i j).keySql key =
      if key = unit ∨ key = outPortKey unit then none else m.keySql key := by
  by_cases out : key = outPortKey unit
  · simp [delist, safeErase, out]
  · by_cases same : key = unit
    · simp [delist, safeErase, same, (outPortKey_ne unit).symm]
    · simp [delist, safeErase, out, same]

theorem safeReading_delist (m : UnitManager) (unit key : Bytes) (i j : Nat) :
    safeReading (m.delist unit i j).keySql key =
      if key = unit ∨ key = outPortKey unit then none else safeReading m.keySql key := by
  rw [safeReading, keySql_delist]
  by_cases gone : key = unit ∨ key = outPortKey unit
  · rw [if_pos gone, if_pos gone]
  · rw [if_neg gone, if_neg gone]
    rfl

/-- A unit that is left was there before, and is another one. -/
theorem reading_delist {unit key : Bytes} {i j : Nat} {unitP : UnitData}
    (found : safeReading (m.delist unit i j).keySql key = some unitP) :
    key ≠ unit ∧ safeReading m.keySql key = some unitP := by
  rw [safeReading_delist] at found
  split at found
  · cases found
  next kept => exact ⟨(not_or.mp kept).1, found⟩

theorem holds_delist_iff (m : UnitManager) (unit : Bytes) (i j : Nat) (x : Bytes × Side) (l : Nat) :
    (m.delist unit i j).Holds x l ↔ x.1 ≠ unit ∧ x.1 ≠ outPortKey unit ∧ m.Holds x l := by
  unfold Holds
  rw [safeReading_delist]
  by_cases gone : x.1 = unit ∨ x.1 = outPortKey unit
  · rw [if_pos gone]
    simp only [reduceCtorEq, false_and, exists_false, false_iff]
    tauto
  · rw [if_neg gone]
    simp only [not_or.mp gone, ne_eq, not_false_eq_true, true_and]
    exact Iff.rfl

theorem Sound.release_cases (sound : m.Sound) (unit : Bytes) :
    (safeReading m.keySql unit = none ∧ m.sysReleaseUnit unit = (-1, m)) ∨
    ∃ i j, m.Holds (unit, .output) i ∧ m.Holds (unit, .inference) j ∧
      m.sysReleaseUnit unit = (0, m.delist unit i j) := by
  unfold sysReleaseUnit
  cases found : safeReading m.keySql unit with
  | none => exact Or.inl ⟨rfl, rfl⟩
  | some unitP =>
    obtain ⟨i, held⟩ := sound.ported found .output
    obtain ⟨j, held'⟩ := sound.ported found .inference
    refine Or.inr ⟨i, j, held, held', ?_⟩
    -- both URLs are read back to the ports that the unit holds
    have port {side : Side} {l : Nat} (held : m.Holds (unit, side) l) :
        parseZmqPort m.zmqSFormat (unitP.url side) = some (m.portListStart + l) := by
      obtain ⟨unitP', found', read⟩ := held
      rwa [Option.some.inj (found.symm.trans found')]
    have output : parseZmqPort m.zmqSFormat unitP.outputUrl = _ := port held
    have inference : parseZmqPort m.zmqSFormat unitP.inferenceUrl = _ := port held'
    have first : m.releaseUrl unitP.outputUrl = { m with portList := m.portList.set i false } := by
      rw [releaseUrl, output]
      exact m.releaseZmqPortLocked_slot i
    have second := releaseZmqPortLocked_slot { m with portList := m.portList.set i false } j
    dsimp only
    rw [first, releaseUrl]
    simp only [inference]
    rw [second]
    rfl

theorem Sound.release (sound : m.Sound) (unit : Bytes) : (m.sysReleaseUnit unit).2.Sound := by
  rcases sound.release_cases unit with ⟨_, unknown⟩ | ⟨i, j, held, held', released⟩
  · rw [unknown]
    exact sound
  rw [released]
  have holds := m.holds_delist_iff unit i j
  refine ⟨⟨⟨sound.start, sound.low, sound.high⟩, ?_, sound.inverts⟩, ?_, ?_, ?_, ?_⟩
  · simpa [delist, safeErase] using sound.fits
  · -- the two slots were held by this unit only
    refine ((sound.slots.release i).release j).mono fun x l kept => ?_
    obtain ⟨other, _, old⟩ := (holds x l).mp kept
    refine ⟨⟨old, ?_⟩, ?_⟩
    · rintro rfl
      exact other (congrArg Prod.fst (sound.slots.distinct old held))
    · rintro rfl
      exact other (congrArg Prod.fst (sound.slots.distinct old held'))
  · intro key unitP read side
    obtain ⟨other, read⟩ := reading_delist read
    obtain ⟨l, old⟩ := sound.ported read side
    exact ⟨l, (holds _ l).mpr ⟨other, sound.ne_outPortKey read unit, old⟩⟩
  · intro key unitP read
    exact sound.named (reading_delist read).2
  · intro key unitP read
    obtain ⟨other, read⟩ := reading_delist read
    have apart : outPortKey key ≠ outPortKey unit :=
      fun equal => other (List.append_cancel_right equal)
    obtain ⟨_, taken, _⟩ := held
    have apart' : outPortKey key ≠ unit := (sound.ne_outPortKey taken key).symm
    rw [keySql_delist, if_neg (not_or.mpr ⟨apart', apart⟩)]
    exact sound.outPort read

/-- The unit is gone and its ports are free, and nothing else has changed. -/
structure Freed (m m' : UnitManager) (unit : Bytes) : Prop where
  gone : ¬ Registered m'.keySql unit
  entries : Registered m.keySql unit →
    m'.keySql unit = none ∧ m'.keySql (outPortKey unit) = none
  others : ∀ key, key ≠ unit → safeReading m'.keySql key = safeReading m.keySql key
  ports : ∀ side i, m.Holds (unit, side) i → m'.portList[i]? = some false
  otherPorts : ∀ i, (∀ side, ¬ m.Holds (unit, side) i) → m'.portList[i]? = m.portList[i]?

/-- Nothing needs to be done for a unit that is not there. -/
theorem Freed.of_missing {unit : Bytes} (missing : ¬ Registered m.keySql unit) :
    m.Freed m unit where
  gone := missing
  entries present := absurd present missing
  others _ _ := rfl
  ports _ _ := fun ⟨_, found, _⟩ => absurd (Option.isSome_of_mem found) missing
  otherPorts _ _ := rfl

theorem Sound.release_frees (sound : m.Sound) (unit : Bytes) :
    m.Freed (m.sysReleaseUnit unit).2 unit := by
  rcases sound.release_cases unit with ⟨missing, unknown⟩ | ⟨i, j, held, held', released⟩
  · rw [unknown]
    exact .of_missing (by simp [Registered, missing])
  rw [released]
  refine ⟨?_, fun _ => ?_, fun key other => ?_, fun side l here => ?_, fun l free => ?_⟩
  · rw [Registered, safeReading_delist, if_pos (Or.inl rfl)]
    exact Bool.false_ne_true
  · simp [keySql_delist]
  · rw [safeReading_delist]
    by_cases out : key = outPortKey unit
    · rw [if_pos (Or.inr out), out, sound.outPortKey_free]
    · rw [if_neg (not_or.mpr ⟨other, out⟩)]
  · have inside {side : Side} {l : Nat} (held : m.Holds (unit, side) l) : l < m.portList.length :=
      (List.getElem?_eq_some_iff.mp (sound.slots.marked held)).1
    change ((m.portList.set i false).set j false)[l]? = some false
    cases side with
    | output =>
      obtain rfl := here.unique held
      by_cases same : j = l <;> simp [same, inside here]
    | inference =>
      obtain rfl := here.unique held'
      simp [inside here]
  · have notI : i ≠ l := fun same => free .output (same ▸ held)
    have notJ : j ≠ l := fun same => free .inference (same ▸ held')
    change ((m.portList.set i false).set j false)[l]? = m.portList[l]?
    rw [List.getElem?_set_ne notJ, List.getElem?_set_ne notI]

/-! ### Runs -/

/-- The calls of the `sys` server. The name of a unit goes into a format string. -/
inductive RegistryCall where
  | allocate (unit : { unit : Bytes // chr '%' ∉ unit })
  | release (unit : Bytes)

def RegistryCall.isAllocate : RegistryCall → Bool
  | .allocate _ => true
  | .release _ => false

def step (m : UnitManager) : RegistryCall → Option UnitManager
  | .allocate unit => some (m.sysAllocateUnit unit).2
  | .release unit => some (m.sysReleaseUnit unit).2

/-- The registry when `remote_server_work` has started: no units, no port in use. -/
structure Fresh (m : UnitManager) : Prop extends m.Configured where
  fits : m.portListStart + m.portList.length ≤ intMax
  noUnits : ∀ key, safeReading m.keySql key = none
  noOutPorts : ∀ key, m.keySql (outPortKey key) = none
  unused : true ∉ m.portList

/-- After `n` allocations with numbers from `c` on, nothing is in use but what the units
have. -/
structure Exact (c : Int) (n : Nat) (m : UnitManager) : Prop extends m.Sound where
  allHeld : AllHeld m.portList m.Holds
  counter : m.workIdNumberCounter = toInt32 (c + n)
  numbers : ∀ {key unitP}, safeReading m.keySql key = some unitP →
    ∃ k < n, unitP.port = toInt32 (c + k)
  separate : ∀ {key key' unitP unitP'}, safeReading m.keySql key = some unitP →
    safeReading m.keySql key' = some unitP' → unitP.port = unitP'.port → key = key'
  outPorts : ∀ key, m.keySql (outPortKey key) ≠ none → Registered m.keySql key

theorem Fresh.sound (fresh : m.Fresh) (inverts : m.zmqSFormat.Inverts) : m.Sound where
  toConfigured := fresh.toConfigured
  fits := fresh.fits
  inverts := inverts
  slots := by
    have none (x : Bytes × Side) (i : Nat) : ¬ m.Holds x i := by simp [Holds, fresh.noUnits]
    exact ⟨fun held => absurd held (none _ _), fun held => absurd held (none _ _)⟩
  ported found := by simp [fresh.noUnits] at found
  named found := by simp [fresh.noUnits] at found
  outPort found := by simp [fresh.noUnits] at found

theorem Fresh.exact (fresh : m.Fresh) (inverts : m.zmqSFormat.Inverts) :
    m.Exact m.workIdNumberCounter 0 where
  toSound := fresh.sound inverts
  allHeld i marked := absurd (List.mem_of_getElem? marked) fresh.unused
  counter := by
    have low := fresh.low
    have high := fresh.high
    unfold intMin intMax at *
    simp only [toInt32, Int.natCast_zero, Int.add_zero]
    exact (Int.bmod_eq_of_le (by omega) (by omega)).symm
  numbers found := by simp [fresh.noUnits] at found
  separate found := by simp [fresh.noUnits] at found
  outPorts key entry := absurd (fresh.noOutPorts key) entry

/-- The numbers of one round of the counter are different. -/
theorem toInt32_ne {c : Int} {k n : Nat} (before : k < n) (few : n < 2 ^ 32) :
    toInt32 (c + n) ≠ toInt32 (c + k) := by
  intro same
  simp only [toInt32, Int.bmod] at same
  split at same <;> split at same <;> omega

theorem Exact.allocate {c : Int} {n : Nat} (exact : m.Exact c n) (few : n < 2 ^ 32)
    (unit : Bytes) : ∃ n' ≤ n + 1, (m.sysAllocateUnit unit).2.Exact c n' := by
  have sound := exact.toSound.allocate unit
  rcases m.sysAllocateUnit_cases exact.start unit with
    ⟨_, failed⟩ | ⟨i, j, _, free, free', allocated⟩
  · rw [failed]
    exact ⟨n, by omega, exact⟩
  rw [allocated] at sound ⊢
  have first := (List.getElem?_eq_some_iff.mp free).1
  have second : j < m.portList.length := by simpa using (List.getElem?_eq_some_iff.mp free').1
  have holds := holds_enlist_iff exact.toFramed first second unit
    ((m.portList.set i true).set j true)
  -- the number is one that no unit has, and with it the work id is new
  have unused {key : Bytes} {unitP : UnitData} (found : safeReading m.keySql key = some unitP) :
      unitP.port ≠ m.workIdNumberCounter := by
    obtain ⟨k, below, number⟩ := exact.numbers found
    rw [number, exact.counter]
    exact (toInt32_ne below few).symm
  have new {key : Bytes} {unitP : UnitData} (found : safeReading m.keySql key = some unitP) :
      key ≠ m.nextWorkId unit := by
    intro same
    obtain ⟨_, name, split⟩ := exact.named found
    exact unused found (workId_number (split.symm.trans same))
  have out {key : Bytes} {unitP : UnitData} (found : safeReading m.keySql key = some unitP) :
      key ≠ outPortKey (m.nextWorkId unit) := exact.ne_outPortKey found _
  refine ⟨n + 1, by omega, ⟨sound, ?_, ?_, ?_, ?_, ?_⟩⟩
  · refine ((exact.allHeld.take (m.nextWorkId unit, .output) i).take
      (m.nextWorkId unit, .inference) j).mono fun x l held => (holds x l).mpr ?_
    rcases held with here | here | old
    · exact Or.inl here
    · exact Or.inr (Or.inl here)
    · obtain ⟨unitP, found, _⟩ := id old
      exact Or.inr (Or.inr ⟨new found, out found, old⟩)
  · change toInt32 (m.workIdNumberCounter + 1) = _
    rw [exact.counter]
    unfold toInt32
    rw [Int.bmod_add_bmod]
    congr 1
    omega
  · intro key unitP found
    obtain ⟨_, ⟨_, rfl⟩ | ⟨_, old⟩⟩ := reading_enlist found
    · exact ⟨n, by omega, exact.counter⟩
    · obtain ⟨k, below, number⟩ := exact.numbers old
      exact ⟨k, by omega, number⟩
  · intro key key' unitP unitP' found found' same
    obtain ⟨_, ⟨here, rfl⟩ | ⟨_, old⟩⟩ := reading_enlist found
    · obtain ⟨_, ⟨there, _⟩ | ⟨_, old'⟩⟩ := reading_enlist found'
      · exact here.trans there.symm
      · exact absurd same.symm (unused old')
    · obtain ⟨_, ⟨_, rfl⟩ | ⟨_, old'⟩⟩ := reading_enlist found'
      · exact absurd same (unused old)
      · exact exact.separate old old' same
  · intro key entry
    rw [keySql_enlist_outPortKey (workId_ne_outPortKey unit key _)] at entry
    refine (registered_enlist _ _ key).mpr ?_
    split at entry
    next here => exact Or.inl here
    next =>
      have registered := exact.outPorts key entry
      obtain ⟨unitP, found⟩ := Option.isSome_iff_exists.mp registered
      exact Or.inr ⟨out found, registered⟩

theorem Exact.release {c : Int} {n : Nat} (exact : m.Exact c n) (unit : Bytes) :
    (m.sysReleaseUnit unit).2.Exact c n := by
  have sound := exact.toSound.release unit
  rcases exact.release_cases unit with ⟨_, unknown⟩ | ⟨i, j, held, held', released⟩
  · rw [unknown]
    exact exact
  rw [released] at sound ⊢
  refine ⟨sound, ?_, exact.counter, ?_, ?_, ?_⟩
  · refine ((exact.allHeld.release i).release j).mono fun x l kept => ?_
    obtain ⟨⟨old, notI⟩, notJ⟩ := kept
    refine (m.holds_delist_iff unit i j x l).mpr ⟨?_, ?_, old⟩
    · -- the unit held nothing but these two slots
      obtain ⟨key, side⟩ := x
      rintro rfl
      cases side with
      | output => exact notI (old.unique held)
      | inference => exact notJ (old.unique held')
    · obtain ⟨unitP, read, _⟩ := old
      exact exact.ne_outPortKey read unit
  · intro key unitP read
    exact exact.numbers (reading_delist read).2
  · intro key key' unitP unitP' read read' same
    exact exact.separate (reading_delist read).2 (reading_delist read').2 same
  · intro key entry
    rw [keySql_delist] at entry
    split at entry
    · exact absurd rfl entry
    next kept =>
    have other : key ≠ unit := by
      rintro rfl
      exact kept (Or.inr rfl)
    obtain ⟨unitP, read⟩ := Option.isSome_iff_exists.mp (exact.outPorts key entry)
    have other' : key ≠ outPortKey unit := exact.ne_outPortKey read unit
    rw [Registered, safeReading_delist, if_neg (not_or.mpr ⟨other, other'⟩), read]
    rfl

theorem Exact.run {c : Int} {n : Nat} {m m' : UnitManager} (exact : m.Exact c n)
    (calls : List RegistryCall) (few : n + calls.countP (·.isAllocate) < 2 ^ 32)
    (reached : run step m calls = some m') : ∃ n', m'.Exact c n' := by
  induction calls generalizing m n with
  | nil =>
    cases reached
    exact ⟨n, exact⟩
  | cons call calls ih =>
    obtain ⟨m₁, taken, rest⟩ := (run_cons_iff step m m' call calls).mp reached
    cases call with
    | allocate unit =>
      cases taken
      rw [List.countP_cons_of_pos rfl] at few
      obtain ⟨n', grown, exact'⟩ := exact.allocate (by omega) unit
      exact ih exact' (by omega) rest
    | release unit =>
      cases taken
      rw [List.countP_cons_of_neg Bool.false_ne_true] at few
      exact ih (exact.release unit) few rest

/-- In every state that allocations and releases lead to: the ports of the units are
different ports of the table and are those marked there, the units have different
work ids and numbers, the entries of output ports are those of the units, and an
allocation that fails leaves everything as it is and found fewer than two free
ports. -/
theorem registry_consistent (m₀ : UnitManager) (fresh : m₀.Fresh)
    (inverts : m₀.zmqSFormat.Inverts) (calls : List RegistryCall)
    (few : calls.countP (·.isAllocate) < 2 ^ 31) (m : UnitManager)
    (reached : Lib.run step m₀ calls = some m) :
    (∀ x y i, m.Holds x i → m.Holds y i → x = y) ∧
    (∀ key unitP side, safeReading m.keySql key = some unitP → ∃ port,
      parseZmqPort m.zmqSFormat (unitP.url side) = some port ∧
        m.portListStart ≤ port ∧ port < m.portListStart + m.portList.length) ∧
    (∀ i : Nat, m.portList[i]? = some true ↔ ∃ x, m.Holds x i) ∧
    (∀ key key' unitP unitP', safeReading m.keySql key = some unitP →
      safeReading m.keySql key' = some unitP' →
      unitP.workId = unitP'.workId ∨ unitP.port = unitP'.port → key = key') ∧
    (∀ key unitP, safeReading m.keySql key = some unitP → unitP.workId = key ∧
      m.keySql (outPortKey key) = some (.text unitP.outputUrl)) ∧
    (∀ key, m.keySql (outPortKey key) ≠ none → Registered m.keySql key) ∧
    ∀ unit, (m.sysAllocateUnit unit).1 = none →
      (m.sysAllocateUnit unit).2 = m ∧ m.portList.count false < 2 := by
  obtain ⟨n, exact⟩ := (fresh.exact inverts).run calls (by omega) reached
  refine ⟨fun x y i => exact.slots.distinct, ?_, ?_, ?_, ?_, exact.outPorts, ?_⟩
  · intro key unitP side found
    obtain ⟨i, held⟩ := exact.ported found side
    have inside := (List.getElem?_eq_some_iff.mp (exact.slots.marked held)).1
    obtain ⟨unitP', found', port⟩ := held
    obtain rfl : unitP = unitP' := Option.some.inj (found.symm.trans found')
    exact ⟨m.portListStart + i, port, by omega, by omega⟩
  · exact fun i => ⟨exact.allHeld i, fun ⟨x, held⟩ => exact.slots.marked held⟩
  · rintro key key' unitP unitP' found found' (same | same)
    · rw [← (exact.named found).1, same, (exact.named found').1]
    · exact exact.separate found found' same
  · exact fun key unitP found => ⟨(exact.named found).1, exact.outPort found⟩
  · intro unit failed
    rcases m.sysAllocateUnit_cases exact.start unit with
      ⟨few, unchanged⟩ | ⟨i, j, _, _, _, allocated⟩
    · exact ⟨by rw [unchanged], few⟩
    · rw [allocated] at failed
      cases failed

theorem inverts_default : ({} : ZmqFormat).Inverts :=
  ZmqFormat.inverts_of_tail (c := chr '.') (by decide) (by decide)

theorem fresh_default : ({} : UnitManager).Fresh where
  start := by decide
  low := by decide
  high := by decide
  fits := by
    rw [List.length_replicate]
    decide
  noUnits key := rfl
  noOutPorts key := rfl
  unused member := absurd (List.eq_of_mem_replicate member) (by decide)

/-- Two units, of which the first is released again. -/
def twoUnits : List RegistryCall :=
  [.allocate ⟨lit "llm", by decide⟩, .allocate ⟨lit "llm", by decide⟩, .release (lit "llm.0"),
    .release (lit "none")]

theorem registry_consistent_twoUnits :
    ∃ m, Lib.run step {} twoUnits = some m ∧ Registered m.keySql (lit "llm.1") ∧
      m.portList[2]? = some true ∧ ∃ x, m.Holds x 2 := by
  have facts : (Lib.run step {} twoUnits).map (fun m =>
      decide (Registered m.keySql (lit "llm.1") ∧ m.portList[2]? = some true)) = some true := by
    decide +kernel
  obtain ⟨m, reached, holds⟩ := Option.map_eq_some_iff.mp facts
  rw [decide_eq_true_eq] at holds
  obtain ⟨_, _, marks, _⟩ := registry_consistent {} fresh_default inverts_default twoUnits
    (by decide) m reached
  exact ⟨m, reached, holds.1, holds.2, (marks 2).mp holds.2⟩

/-- A range that begins below zero: the allocation fails with both ports free, and one of
them stays in use. -/
theorem negative_range_leaks_port :
    (({ portListStart := -1, portList := [false, false] } : UnitManager).sysAllocateUnit
        (lit "llm")).1 = none ∧
      (({ portListStart := -1, portList := [false, false] } : UnitManager).sysAllocateUnit
        (lit "llm")).2.portList = [true, false] :=
  ⟨rfl, rfl⟩

end UnitManager

end VllmRoute.Access
