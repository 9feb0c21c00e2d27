import VllmRoute.Access.Rpc

/-!
# Two parameters in one message

`pzmq_data::get_param` on the messages that `set_param` packs: one byte for the
length of the first parameter, and then both. The bytes are taken here with a
check of their bounds, which the source does not make.
-/
namespace VllmRoute.Access

/-- A `char` as a number. -/
def signedChar (c : UInt8) : Int := (c.toNat : Int).bmod 256

/-- What the checks find in a message. -/
inductive ParamFault where
  | noFirstByte
  | lengthError
  | outside
  deriving DecidableEq

/-- `std::string(data + offset, length)`. A negative length is one beyond `max_size` after
its conversion, and throws. -/
def stringAt (data : Bytes) (offset length : Int) : Except ParamFault Bytes :=
  if length < 0 then .error .lengthError
  else if 0 ≤ offset ∧ offset + length ≤ data.length then
    .ok ((data.drop offset.toNat).take length.toNat)
  else .error .outside

/-- The branches of `get_param` on the bytes that were chosen. -/
def paramOf (data : Bytes) (index : Int) : Except ParamFault Bytes :=
  match data with
  | [] => .error .noFirstByte
  | c :: _ =>
    let size := toInt32 data.length
    if index % 2 = 0 then stringAt data 1 (signedChar c)
    -- the length byte is the offset here
    else stringAt data (signedChar c + 1) (toInt32 (size - signedChar c - 1))

/-- `pzmq_data::get_param`; an empty `idata` stands for the message. -/
def getParam (msg : Bytes) (index : Int) (idata : Bytes) : Except ParamFault Bytes :=
  paramOf (if idata.length > 0 then idata else msg) index

/-- What `_setup`, `_exit` and `_taskinfo` take from their message. -/
def eventParams (msg : Bytes) : Except ParamFault (Bytes × Bytes) := do
  let zmqUrl ← getParam msg 0 []
  let data ← getParam msg 1 []
  return (zmqUrl, data)

/-! ### Registration -/

/-- What `rpc_allocate_unit` answers with. -/
def allocateReply : Option UnitData → Bytes
  | none => setParam (lit "-1") (setParam [] [])
  | some unitInfo =>
    setParam (decimal unitInfo.port) (setParam unitInfo.outputUrl unitInfo.inferenceUrl)

def rpcAllocateUnit (m : UnitManager) (raw : Bytes) : Bytes × UnitManager :=
  let (unitInfo, m) := m.sysAllocateUnit raw
  (allocateReply unitInfo, m)

/-- The texts that `sys_register_unit` takes from the reply. -/
structure RegisterReply where
  strPort : Bytes
  outPort : Bytes
  inferencePort : Bytes
  deriving DecidableEq

/-- The callback of `sys_register_unit`, with its `str_port` for the inner parameters first
and for the number after that. -/
def registerReply (msg : Bytes) : Except ParamFault RegisterReply := do
  let strPort ← getParam msg 1 []
  let outPort ← getParam msg 0 strPort
  let inferencePort ← getParam msg 1 strPort
  let strPort ← getParam msg 0 []
  return ⟨strPort, outPort, inferencePort⟩

/-- The message that the callback of a call gets: empty, when nothing was received. -/
def received (sockets : Sockets) (rpcServer action data : Bytes) : Bytes :=
  (sockets.callRpcAction rpcServer action data).2.getD []

/-! ### What is taken -/

theorem signedChar_ofNat {n : Nat} (small : n < 128) : signedChar (UInt8.ofNat n) = n := by
  have byte : (UInt8.ofNat n).toNat = n := by
    rw [UInt8.toNat_ofNat']
    omega
  unfold signedChar
  rw [byte, Int.bmod_eq_of_le (by omega) (by omega)]

/-- A length byte that is no negative number is the length modulo 256. -/
theorem signedChar_ofNat_eq {n : Nat} (same : signedChar (UInt8.ofNat n) = n) : n < 128 := by
  have bound : signedChar (UInt8.ofNat n) < 128 := Int.bmod_lt (by decide)
  omega

theorem stringAt_eq_ok_iff (data : Bytes) (offset length : Int) (text : Bytes) :
    stringAt data offset length = .ok text ↔
      (0 ≤ length ∧ 0 ≤ offset ∧ offset + length ≤ data.length) ∧
        (data.drop offset.toNat).take length.toNat = text := by
  unfold stringAt
  by_cases negative : length < 0
  · rw [if_pos negative]
    constructor
    · intro same
      cases same
    · rintro ⟨⟨positive, _⟩, _⟩
      omega
  · rw [if_neg negative]
    by_cases inside : 0 ≤ offset ∧ offset + length ≤ data.length
    · rw [if_pos inside, Except.ok.injEq]
      exact ⟨fun same => ⟨⟨by omega, inside⟩, same⟩, And.right⟩
    · rw [if_neg inside]
      constructor
      · intro same
        cases same
      · rintro ⟨⟨_, inside'⟩, _⟩
        exact absurd inside' inside

/-- The text that was taken has the length that was asked for. -/
theorem stringAt_length {data text : Bytes} {offset length : Int}
    (taken : stringAt data offset length = .ok text) : (text.length : Int) = length := by
  obtain ⟨⟨positive, start, inside⟩, rfl⟩ := (stringAt_eq_ok_iff ..).mp taken
  rw [List.length_take, List.length_drop]
  omega

/-- The sizes in `int` do not matter: the difference is that of the sizes themselves. -/
theorem toInt32_rest (c : UInt8) (rest : Bytes) :
    toInt32 (toInt32 ((c :: rest).length : Nat) - signedChar c - 1) =
      toInt32 (rest.length - signedChar c) := by
  have difference : ((c :: rest).length : Int) - (signedChar c + 1) =
      rest.length - signedChar c := by
    rw [List.length_cons]
    omega
  unfold toInt32
  rw [Int.sub_sub, Int.bmod_sub_bmod, difference]

end VllmRoute.Access
