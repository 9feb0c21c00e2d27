import VllmRoute.Access.Param
import VllmRoute.Channel.Extract

/-!
# The calls of the `sys` server

The five functions that `remote_server_work` registers. Units, the URLs of their
output ports and the values of the nodes are entries of one map, `key_sql`.
-/
namespace VllmRoute.Access

open Channel

namespace UnitManager

/-- `sys_sql_select`: empty, unless the key holds a string. -/
def sysSqlSelect (m : UnitManager) (key : Bytes) : Bytes :=
  match m.keySql key with
  | some (.text out) => out
  | _ => []

def sysSqlSet (m : UnitManager) (key val : Bytes) : UnitManager := m.safeSetting key (.text val)

def sysSqlUnset (m : UnitManager) (key : Bytes) : UnitManager := m.safeErase key

def rpcReleaseUnit (m : UnitManager) (raw : Bytes) : Bytes × UnitManager :=
  -- the result of the release is not passed on
  (lit "Success", (m.sysReleaseUnit raw).2)

def rpcSqlSelect (m : UnitManager) (raw : Bytes) : Bytes × UnitManager := (m.sysSqlSelect raw, m)

def rpcSqlSet (m : UnitManager) (raw : Bytes) : Bytes × UnitManager :=
  let key := sampleJsonStrGet raw (lit "key")
  let val := sampleJsonStrGet raw (lit "val")
  if key.isEmpty then (lit "False", m) else (lit "Success", m.sysSqlSet key val)

def rpcSqlUnset (m : UnitManager) (raw : Bytes) : Bytes × UnitManager :=
  (lit "Success", m.sysSqlUnset raw)

end UnitManager

/-- A request to the `sys` server. The name of a unit goes into the format string of `sprintf`, so
only names without a percent sign are taken. -/
inductive SysCall where
  | registerUnit (unit : { unit : Bytes // chr '%' ∉ unit })
  | releaseUnit (raw : Bytes)
  | sqlSelect (raw : Bytes)
  | sqlSet (raw : Bytes)
  | sqlUnset (raw : Bytes)

namespace SysCall

def serve (m : UnitManager) : SysCall → Bytes × UnitManager
  | .registerUnit unit => rpcAllocateUnit m unit
  | .releaseUnit raw => m.rpcReleaseUnit raw
  | .sqlSelect raw => m.rpcSqlSelect raw
  | .sqlSet raw => m.rpcSqlSet raw
  | .sqlUnset raw => m.rpcSqlUnset raw

def isRegister : SysCall → Bool
  | .registerUnit _ => true
  | _ => false

/-- One of the three calls for keys and values. -/
def isKeyValue : SysCall → Bool
  | .sqlSelect _ | .sqlSet _ | .sqlUnset _ => true
  | _ => false

/-- The key whose entry such a call replaces or erases. -/
def writtenKey : SysCall → Option Bytes
  | .sqlSet raw =>
    let key := sampleJsonStrGet raw (lit "key")
    if key.isEmpty then none else some key
  | .sqlUnset raw => some raw
  | _ => none

/-- The entry under that key is no unit. -/
def Spares (m : UnitManager) (call : SysCall) : Prop :=
  ∀ key ∈ call.writtenKey, ¬ Registered m.keySql key

instance (m : UnitManager) (call : SysCall) : Decidable (call.Spares m) :=
  inferInstanceAs (Decidable (∀ key ∈ call.writtenKey, _))

/-- One request after the other. -/
def step (m : UnitManager) (call : SysCall) : Option UnitManager := some (call.serve m).2

/-- What a key/value call leaves behind: the entry of its key alone is another one, and it is
no unit. -/
theorem serve_keyValue (m : UnitManager) {call : SysCall} (kind : call.isKeyValue = true) :
    (call.writtenKey = none ∧ (call.serve m).2 = m) ∨
    ∃ key entry, call.writtenKey = some key ∧
      (call.serve m).2 = { m with keySql := Function.update m.keySql key entry } ∧
      ∀ unitP, entry ≠ some (.unit unitP) := by
  cases call with
  | registerUnit unit => cases kind
  | releaseUnit raw => cases kind
  | sqlSelect raw => exact Or.inl ⟨rfl, rfl⟩
  | sqlSet raw =>
    simp only [writtenKey, serve, UnitManager.rpcSqlSet]
    split
    · exact Or.inl ⟨rfl, rfl⟩
    · exact Or.inr ⟨_, _, rfl, rfl, by simp⟩
  | sqlUnset raw => exact Or.inr ⟨raw, none, rfl, rfl, by simp⟩

theorem isKeyValue_of_not_spares {m : UnitManager} {call : SysCall} (hit : ¬ call.Spares m) :
    call.isKeyValue = true := by
  cases call with
  | registerUnit unit => exact absurd (fun _ member => by cases member) hit
  | releaseUnit raw => exact absurd (fun _ member => by cases member) hit
  | sqlSelect raw => rfl
  | sqlSet raw => rfl
  | sqlUnset raw => rfl

end SysCall

end VllmRoute.Access
