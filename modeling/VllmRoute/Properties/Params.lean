import Mathlib.Data.Nat.Digits.Defs
import VllmRoute.Access.Param
import VllmRoute.Node.State

/-!
# Packing and unpacking parameters

The length of the first parameter is one `char`, so what `set_param` packs comes
back only while the length fits into a signed one. A message that comes from
elsewhere is read by the same byte, whatever it is.
-/
namespace VllmRoute.Access

theorem paramOf_even {index : Int} (even : index % 2 = 0) (c : UInt8) (rest : Bytes) :
    paramOf (c :: rest) index = stringAt (c :: rest) 1 (signedChar c) := by
  rw [paramOf]
  exact if_pos even

theorem paramOf_odd {index : Int} (odd : ¬ index % 2 = 0) (c : UInt8) (rest : Bytes) :
    paramOf (c :: rest) index =
      stringAt (c :: rest) (signedChar c + 1) (toInt32 (rest.length - signedChar c)) := by
  rw [← toInt32_rest c rest, paramOf]
  exact if_neg odd

/-! ### What was packed -/

section Packed

variable {param0 : Bytes}

theorem paramOf_setParam_zero (short : param0.length < 128) (param1 : Bytes) :
    paramOf (setParam param0 param1) 0 = .ok param0 := by
  rw [setParam, paramOf_even rfl, signedChar_ofNat short]
  apply (stringAt_eq_ok_iff ..).mpr
  constructor
  · rw [List.length_cons, List.length_append]
    omega
  · simp

/-- Behind a first parameter that is short enough, the second one is read with its own
length in `int`. -/
theorem paramOf_setParam_one (short : param0.length < 128) (param1 : Bytes) :
    paramOf (setParam param0 param1) 1 =
      stringAt (setParam param0 param1) (param0.length + 1) (toInt32 param1.length) := by
  have rest : (((param0 ++ param1).length : Nat) : Int) - param0.length = param1.length := by
    rw [List.length_append]
    omega
  rw [setParam, paramOf_odd (by decide), signedChar_ofNat short, rest]

theorem stringAt_setParam (param0 param1 : Bytes) :
    stringAt (setParam param0 param1) (param0.length + 1) param1.length = .ok param1 := by
  apply (stringAt_eq_ok_iff ..).mpr
  constructor
  · rw [setParam, List.length_cons, List.length_append]
    omega
  · have start : ((param0.length : Int) + 1).toNat = param0.length + 1 := by omega
    rw [start, setParam, List.drop_succ_cons, List.drop_left, Int.toNat_natCast, List.take_length]

theorem paramOf_setParam_one_iff (short : param0.length < 128) (param1 : Bytes) :
    paramOf (setParam param0 param1) 1 = .ok param1 ↔ (param1.length : Int) ≤ intMax := by
  rw [paramOf_setParam_one short]
  constructor
  · intro taken
    rw [stringAt_length taken]
    exact toInt32_le_intMax _
  · intro small
    have low : intMin ≤ (param1.length : Int) := by
      unfold intMin
      omega
    rw [toInt32_eq_self low small]
    exact stringAt_setParam param0 param1

/-- A first parameter of more than 127 bytes does not come back. -/
theorem paramOf_setParam_zero_iff (param0 param1 : Bytes) :
    paramOf (setParam param0 param1) 0 = .ok param0 ↔ param0.length < 128 := by
  constructor
  · intro taken
    rw [setParam, paramOf_even rfl] at taken
    exact signedChar_ofNat_eq (stringAt_length taken).symm
  · intro short
    exact paramOf_setParam_zero short param1

end Packed

theorem getParam_msg (msg : Bytes) (index : Int) : getParam msg index [] = paramOf msg index := rfl

/-- The inner packet of a reply has a length byte, and so is never taken for the message. -/
theorem getParam_packed (msg param0 param1 : Bytes) (index : Int) :
    getParam msg index (setParam param0 param1) = paramOf (setParam param0 param1) index := by
  rw [getParam, if_pos (by simp [setParam])]

/-- For every response URL and every text: the handlers get back what `remote_call` has
packed if and only if the URL has at most 127 bytes, and the text no more than an
`int` can count. -/
theorem eventParams_setParam_iff (url json : Bytes) :
    eventParams (setParam url json) = .ok (url, json) ↔
      url.length ≤ 127 ∧ (json.length : Int) ≤ intMax := by
  have both : eventParams (setParam url json) = .ok (url, json) ↔
      paramOf (setParam url json) 0 = .ok url ∧ paramOf (setParam url json) 1 = .ok json := by
    simp [eventParams, getParam_msg, bind_ok_iff, pure, Except.pure]
  rw [both, paramOf_setParam_zero_iff]
  constructor
  · rintro ⟨short, taken⟩
    exact ⟨by omega, (paramOf_setParam_one_iff short json).mp taken⟩
  · rintro ⟨short, small⟩
    have short : url.length < 128 := by omega
    exact ⟨short, (paramOf_setParam_one_iff short json).mpr small⟩

/-- A URL that the array of `remote_call` holds with room to spare. -/
def socketUrl : Bytes := lit "ipc:///tmp/llm/" ++ List.replicate 113 (chr 'a')

/-- A URL of 128 bytes passes `snprintf`, and throws where it is unpacked. -/
theorem long_url_not_unpacked :
    socketUrl.length = 128 ∧ comUrl socketUrl = socketUrl ∧
    eventParams (setParam (comUrl socketUrl) (lit "\x7b\x7d")) = .error .lengthError := by
  refine ⟨by decide +kernel, by decide +kernel, by decide +kernel⟩

/-! ### Registration -/

theorem toDigits_length_lt {n : Nat} (small : n ≤ 2147483648) :
    (Nat.toDigits 10 n).length < 127 := by
  have digits := Nat.toDigits_length 10 n 10 (by decide) (by omega)
  omega

theorem decimal_length {n : Int} (low : intMin ≤ n) (high : n ≤ intMax) :
    (decimal n).length < 128 := by
  unfold intMin at low
  unfold intMax at high
  rcases Int.lt_or_le n 0 with negative | positive
  · obtain ⟨k, rfl⟩ := Int.eq_negSucc_of_lt_zero negative
    have digits := toDigits_length_lt (n := k + 1) (by omega)
    rw [decimal_negSucc, List.length_cons, List.length_map]
    omega
  · obtain ⟨k, rfl⟩ := Int.eq_ofNat_of_zero_le positive
    have digits := toDigits_length_lt (n := k) (by omega)
    rw [decimal_natCast, List.length_map]
    omega

theorem registerReply_packed {number outputUrl inferenceUrl : Bytes} (short : number.length < 128)
    (output : outputUrl.length ≤ 127) (inference : inferenceUrl.length ≤ 127) :
    registerReply (setParam number (setParam outputUrl inferenceUrl)) =
      .ok ⟨number, outputUrl, inferenceUrl⟩ := by
  have output : outputUrl.length < 128 := by omega
  have small {text : Bytes} (short : text.length ≤ 255) : (text.length : Int) ≤ intMax := by
    unfold intMax
    omega
  have inner : (setParam outputUrl inferenceUrl).length ≤ 255 := by
    rw [setParam, List.length_cons, List.length_append]
    omega
  -- the four calls, in their order
  have packet := (paramOf_setParam_one_iff short _).mpr (small inner)
  have first := paramOf_setParam_zero output inferenceUrl
  have second := (paramOf_setParam_one_iff output inferenceUrl).mpr (small (by omega))
  have last := paramOf_setParam_zero short (setParam outputUrl inferenceUrl)
  apply (bind_ok_iff ..).mpr
  refine ⟨_, packet, (bind_ok_iff ..).mpr ⟨outputUrl, ?_, (bind_ok_iff ..).mpr ⟨inferenceUrl, ?_,
    (bind_ok_iff ..).mpr ⟨_, last, rfl⟩⟩⟩⟩
  · rw [getParam_packed, first]
  · rw [getParam_packed, second]

/-- For every number and every two URLs of at most 127 bytes, what `sys_register_unit`
takes from the reply is what was put into it. -/
theorem registerReply_setParam (n : Int) (low : intMin ≤ n) (high : n ≤ intMax)
    (outputUrl inferenceUrl : Bytes) (output : outputUrl.length ≤ 127)
    (inference : inferenceUrl.length ≤ 127) :
    registerReply (setParam (decimal n) (setParam outputUrl inferenceUrl)) =
      .ok ⟨decimal n, outputUrl, inferenceUrl⟩ :=
  registerReply_packed (decimal_length low high) output inference

/-- A unit as it is registered with the format of `master_config.json`. -/
def llmUnit : UnitData where
  workId := lit "llm.2"
  outputUrl := lit "ipc:///tmp/llm/5014.sock.llm.output_url"
  inferenceUrl := lit "ipc:///tmp/llm/5015.sock.llm.inference_url"
  port := 2

/-- The reply to a unit with its two URLs, and the one to a failed registration with two
empty ones. -/
theorem registerReply_setParam_failed :
    registerReply (allocateReply (some llmUnit)) =
      .ok ⟨lit "2", llmUnit.outputUrl, llmUnit.inferenceUrl⟩ ∧
    registerReply (allocateReply none) = .ok ⟨lit "-1", [], []⟩ := by
  have two : decimal 2 = lit "2" := by decide
  have minusOne : decimal (-1) = lit "-1" := by decide
  have taken := registerReply_setParam 2 (by decide) (by decide) llmUnit.outputUrl
    llmUnit.inferenceUrl (by decide +kernel) (by decide +kernel)
  have failed := registerReply_setParam (-1) (by decide) (by decide) [] [] (by decide) (by decide)
  rw [two] at taken
  rw [minusOne] at failed
  refine ⟨?_, failed⟩
  rw [allocateReply, llmUnit, two]
  exact taken

/-! ### Messages from elsewhere -/

/-- For every message and every index, `get_param` stays inside of the message if and only
if there is a first byte and, for the first parameter, its value as a `char` is no
negative number and no more bytes than follow; for the second one it is at least
-1, and the number of bytes behind the offset is one that an `int` can hold. -/
theorem getParam_inside_iff (msg : Bytes) (index : Int) :
    (∃ text, getParam msg index [] = .ok text) ↔
      ∃ c rest, msg = c :: rest ∧
        (index % 2 = 0 → 0 ≤ signedChar c ∧ signedChar c ≤ rest.length) ∧
        (index % 2 ≠ 0 → -1 ≤ signedChar c ∧ signedChar c ≤ rest.length ∧
          0 ≤ toInt32 (rest.length - signedChar c)) := by
  rw [getParam_msg]
  cases msg with
  | nil =>
    constructor
    · rintro ⟨text, taken⟩
      cases taken
    · rintro ⟨c, rest, split, _⟩
      cases split
  | cons c rest =>
    have size : (((c :: rest).length : Nat) : Int) = rest.length + 1 := by
      rw [List.length_cons]
      omega
    by_cases even : index % 2 = 0
    · simp only [paramOf_even even, stringAt_eq_ok_iff, exists_and_left, exists_eq', size]
      constructor
      · rintro ⟨⟨positive, _, inside⟩, _⟩
        exact ⟨c, rest, rfl, fun _ => ⟨positive, by omega⟩, fun odd => absurd even odd⟩
      · rintro ⟨_, _, split, first, _⟩
        cases split
        obtain ⟨positive, inside⟩ := first even
        exact ⟨⟨positive, by omega, by omega⟩, trivial⟩
    · simp only [paramOf_odd even, stringAt_eq_ok_iff, exists_and_left, exists_eq', size]
      constructor
      · rintro ⟨⟨positive, start, inside⟩, _⟩
        -- a length byte beyond the end makes the length negative
        have inside : signedChar c ≤ rest.length := by omega
        exact ⟨c, rest, rfl, fun e => absurd e even, fun _ => ⟨by omega, inside, positive⟩⟩
      · rintro ⟨_, _, split, _, second⟩
        cases split
        obtain ⟨start, inside, positive⟩ := second even
        have short := toInt32_le_self (n := rest.length - signedChar c) (by omega)
        exact ⟨⟨positive, by omega, by omega⟩, trivial⟩

/-- Sockets on which no answer arrives in time. -/
def timedOut : Sockets where
  access := fun _ => true
  zmqConnect := fun _ => 0
  server := fun _ => some ⟨fun _ => none⟩
  inTime := fun _ _ => false

/-- The empty message of a timed-out call, a negative length byte and one that is too
large: each is read outside of its bounds. -/
theorem message_read_outside :
    received timedOut (lit "sys") (lit "register_unit") (lit "llm") = [] ∧
    registerReply [] = .error .noFirstByte ∧
    getParam [0x80, 0] 0 [] = .error .lengthError ∧ getParam [0x80, 0] 1 [] = .error .outside ∧
    getParam [5, 0] 0 [] = .error .outside ∧ getParam [5, 0] 1 [] = .error .lengthError := by
  refine ⟨by decide +kernel, by decide, by decide, by decide, by decide, by decide⟩

end VllmRoute.Access

namespace VllmRoute.Node

open Access

/-- Over the wire a node gets the number that the unit manager has assigned, whenever the
URLs of its unit fit. -/
theorem registerUnit_received (s : VllmLlm) (configured : s.manager.Configured)
    (short : ∀ unitP ∈ (s.manager.sysAllocateUnit unitName).1,
      unitP.outputUrl.length ≤ 127 ∧ unitP.inferenceUrl.length ≤ 127) :
    ∃ reply, registerReply (rpcAllocateUnit s.manager unitName).1 = .ok reply ∧
      stoi reply.strPort = some s.registerUnit.1 ∧
      (rpcAllocateUnit s.manager unitName).2 = s.registerUnit.2.manager := by
  unfold rpcAllocateUnit VllmLlm.registerUnit
  rcases s.manager.sysAllocateUnit_cases configured.start unitName with
    ⟨_, failed⟩ | ⟨i, j, _, _, _, allocated⟩
  · simp only [failed]
    exact ⟨⟨lit "-1", [], []⟩, by decide, by decide, trivial⟩
  · rw [allocated] at short
    simp only [allocated]
    obtain ⟨output, inference⟩ := short _ rfl
    refine ⟨_, registerReply_packed ?_ output inference, ?_, trivial⟩
    · exact decimal_length configured.low configured.high
    · have read := stoi_decimal s.manager.workIdNumberCounter [] configured.low configured.high
        (by simp)
      rwa [List.append_nil] at read

end VllmRoute.Node
