import VllmRoute.Lib.Refine
import VllmRoute.Node.Store

/-!
# The store of the nodes as a table

The key/value calls of the nodes against a table of strings in which a value
stays as it was set. They agree exactly on the keys and values that the text of
a call shows as they are.
-/
namespace VllmRoute.Node

open Lib Access Access.UnitManager Channel

variable {m : UnitManager} {key val : Bytes}

/-- What the calls are for. -/
def table (values : Bytes → Bytes) : StoreCall → Bytes × (Bytes → Bytes)
  | .sysSqlSelect key => (values key, values)
  | .sysSqlSet key val => ([], Function.update values key val)
  | .sysSqlUnset key => ([], Function.update values key [])

theorem select_sysSqlSet (m : UnitManager) (key val : Bytes) :
    (m.sysSqlSet key val).sysSqlSelect = Function.update m.sysSqlSelect key val := by
  funext other
  unfold UnitManager.sysSqlSelect UnitManager.sysSqlSet safeSetting
  by_cases same : other = key
  · subst same
    simp
  · simp [same]

theorem select_sysSqlUnset (m : UnitManager) (key : Bytes) :
    (m.sysSqlUnset key).sysSqlSelect = Function.update m.sysSqlSelect key [] := by
  funext other
  unfold UnitManager.sysSqlSelect UnitManager.sysSqlUnset safeErase
  by_cases same : other = key
  · subst same
    simp
  · simp [same]

/-! ### Setting one value -/

/-- The text of the call shows the key and the value as they are. -/
structure Kept (key val : Bytes) : Prop where
  validKey : validUtf8 key = true
  validVal : validUtf8 val = true
  nonempty : key ≠ []
  plainKey : ∀ c ∈ key, isUnescaped c = true
  plainVal : ∀ c ∈ val, isUnescaped c = true
  named : key = lit "val" → val = []

theorem quote_not_mem (unescaped : ∀ c ∈ key, isUnescaped c = true) : quote ∉ key := by
  intro member
  have bad := unescaped quote member
  revert bad
  decide

/-- What the unit manager finds in the text, where both strings are UTF-8. -/
theorem step_set (validKey : validUtf8 key = true) (validVal : validUtf8 val = true) :
    StoreCall.step m (.sysSqlSet key val) = some ([], (m.rpcSqlSet
      (keyValText (quoted (dumpBody key)) (quoted (dumpBody val)))).2) := by
  simp [StoreCall.step, StoreCall.request, dumpString, validKey, validVal, SysCall.serve]

theorem sampleJsonStrGet_key_iff (key val : Bytes) :
    sampleJsonStrGet (keyValText (quoted (dumpBody key)) val) (lit "key") = key ↔
      ∀ c ∈ key, isUnescaped c = true := by
  rw [sampleJsonStrGet_key]
  exact readValue_dump_iff key _

theorem sampleJsonStrGet_val_iff (unescaped : ∀ c ∈ key, isUnescaped c = true) (val : Bytes) :
    sampleJsonStrGet (keyValText (quoted (dumpBody key)) (quoted (dumpBody val))) (lit "val") =
      val ↔ (∀ c ∈ val, isUnescaped c = true) ∧ (key = lit "val" → val = []) := by
  rw [dumpBody_unescaped unescaped]
  by_cases named : key = lit "val"
  · subst named
    rw [sampleJsonStrGet_val_val]
    constructor
    · rintro rfl
      exact ⟨List.forall_mem_nil _, fun _ => rfl⟩
    · intro kept
      exact (kept.2 rfl).symm
  · rw [sampleJsonStrGet_val (quote_not_mem unescaped) named, readValue_dump_iff]
    exact ⟨fun plain => ⟨plain, fun same => absurd same named⟩, fun kept => kept.1⟩

theorem Kept.step (kept : Kept key val) :
    StoreCall.step m (.sysSqlSet key val) = some ([], m.sysSqlSet key val) := by
  have found := (sampleJsonStrGet_key_iff key (quoted (dumpBody val))).mpr kept.plainKey
  have value := (sampleJsonStrGet_val_iff kept.plainKey val).mpr ⟨kept.plainVal, kept.named⟩
  rw [step_set kept.validKey kept.validVal, rpcSqlSet]
  rw [found, value, if_neg (by simpa using kept.nonempty)]

/-- A call that gives the key a value it did not have. -/
theorem kept_of_selected {m' : UnitManager} {reply : Bytes}
    (taken : StoreCall.step m (.sysSqlSet key val) = some (reply, m'))
    (before : m.sysSqlSelect key ≠ val) (after : m'.sysSqlSelect key = val) : Kept key val := by
  by_cases validKey : validUtf8 key = true
  case neg => simp [StoreCall.step, StoreCall.request, dumpString, validKey] at taken
  by_cases validVal : validUtf8 val = true
  case neg => simp [StoreCall.step, StoreCall.request, dumpString, validVal] at taken
  rw [step_set validKey validVal, rpcSqlSet] at taken
  -- nothing but the entry of the key that was read can have changed
  generalize found : sampleJsonStrGet _ (lit "key") = key' at taken
  generalize value : sampleJsonStrGet _ (lit "val") = val' at taken
  split at taken
  · cases taken
    exact absurd after before
  next nonempty =>
    cases taken
    rw [select_sysSqlSet] at after
    by_cases same : key = key'
    · subst same
      have plain := (sampleJsonStrGet_key_iff key _).mp found
      rw [Function.update_self] at after
      subst after
      obtain ⟨plain', named⟩ := (sampleJsonStrGet_val_iff plain val').mp value
      exact ⟨validKey, validVal, by simpa using nonempty, plain, plain', named⟩
    · rw [Function.update_of_ne same] at after
      exact absurd after before

/-! ### Sequences of calls -/

/-- The call is about one of the keys, and sets it to one of the values. -/
def StoreCall.Within (keys vals : Set Bytes) : StoreCall → Prop
  | .sysSqlSelect key => key ∈ keys
  | .sysSqlSet key val => key ∈ keys ∧ val ∈ vals
  | .sysSqlUnset key => key ∈ keys

theorem refines_table {keys vals : Set Bytes} (kept : ∀ key ∈ keys, ∀ val ∈ vals, Kept key val)
    (m : UnitManager) (call : StoreCall) (within : call.Within keys vals) :
    Refines StoreCall.step table UnitManager.sysSqlSelect m call := by
  cases call with
  | sysSqlSelect key => exact ⟨m, rfl, rfl⟩
  | sysSqlSet key val =>
    exact ⟨_, (kept key within.1 val within.2).step, select_sysSqlSet m key val⟩
  | sysSqlUnset key => exact ⟨_, rfl, select_sysSqlUnset m key⟩

/-- On a set of keys and a set of values, every sequence of calls on every unit manager is
answered as by a table, if and only if each key can hold each of the values: both are UTF-8
without a character that JSON escapes, the key is not empty, and the key `val` holds no value but
the empty one. -/
theorem store_is_table_iff (keys vals : Set Bytes) :
    (∀ (m : UnitManager) (cs : List StoreCall), (∀ call ∈ cs, call.Within keys vals) →
      (calls StoreCall.step m cs).map Prod.fst = some (callsOf table m.sysSqlSelect cs).1) ↔
    ∀ key ∈ keys, ∀ val ∈ vals, Kept key val := by
  constructor
  · intro agree key among val among'
    -- a manager in which the key has another value
    let m : UnitManager := UnitManager.sysSqlSet {} key (0 :: val)
    have before : m.sysSqlSelect key = 0 :: val := by
      rw [select_sysSqlSet, Function.update_self]
    have answers := agree m [.sysSqlSet key val, .sysSqlSelect key] (by
      rintro call (_ | ⟨_, _ | ⟨_, ⟨⟩⟩⟩)
      · exact ⟨among, among'⟩
      · exact among)
    cases taken : StoreCall.step m (.sysSqlSet key val) with
    | none => simp [calls, taken] at answers
    | some r =>
      obtain ⟨reply, m'⟩ := r
      apply kept_of_selected taken
      · rw [before]
        exact List.cons_ne_self 0 val
      · have selected : StoreCall.step m' (.sysSqlSelect key) =
            some (m'.sysSqlSelect key, m') := rfl
        simp [calls, taken, selected, callsOf, table] at answers
        exact answers.2
  · intro kept m cs within
    have respects : Respects StoreCall.step (fun _ call => call.Within keys vals) m cs := by
      clear kept
      induction cs generalizing m with
      | nil => trivial
      | cons call cs ih =>
        obtain ⟨first, rest⟩ := List.forall_mem_cons.mp within
        exact ⟨first, fun _ m' _ => ih m' rest⟩
    obtain ⟨t, answered, _⟩ := calls_refine (refines_table kept) respects
    rw [answered]
    rfl

end VllmRoute.Node
