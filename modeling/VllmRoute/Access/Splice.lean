import VllmRoute.Access.UnitAction
import VllmRoute.Lib.Overwrite

/-!
# The reply address in front of a message

`unit_action_match` puts the message for a unit together in two arrays, with
`sprintf` and `memcpy` and a length that it adds up by hand. A write outside of
an array is undefined behaviour, and is `none` here.
-/
namespace VllmRoute.Access

open Lib

/-- `sprintf` of a text: the text, and a zero behind it. -/
def sprintf (memory : Bytes) (offset : Nat) (text : Bytes) : Option Bytes :=
  store memory offset (text ++ [0])

/-- `char zmq_push_url[128]`; what it holds before the first write is not read. -/
def zmqPushUrlArray : Bytes := List.replicate 128 0

/-- The code that makes `inference_raw_data`, for an expansion of `zmq_c_format`. -/
def spliceRawData (expansion jsonStr : Bytes) : Option Bytes := do
  let zmqPushUrl ← sprintf zmqPushUrlArray 0 expansion
  let size := expansion.length + jsonStr.length + 13
  -- `resize` fills the string with zeros, and its terminator may be overwritten by a zero
  let data ← sprintf (List.replicate (size + 1) 0) 0 (lit "\x7b\"zmq_com\":\"")
  let post := (lit "\x7b\"zmq_com\":\"").length
  let data ← sprintf data post (cString zmqPushUrl)
  let post := post + (cString zmqPushUrl).length
  let data ← sprintf data post (lit "\",")
  let post := post + (lit "\",").length
  -- `memcpy` of one byte less than the message has
  let rest ← jsonStr.tail?
  let data ← store data post rest
  return data.take size

/-! ### What is written where -/

/-- Over zeros, the zero behind the text makes no difference. -/
theorem sprintf_zeros (written text : Bytes) {k left : Nat} (split : k = text.length + (left + 1)) :
    sprintf (written ++ List.replicate k 0) written.length text =
      some (written ++ text ++ List.replicate (left + 1) 0) := by
  have counts : text.length + (left + 1) - (text.length + 1) = left := by omega
  rw [sprintf, store_replicate, List.length_append, List.length_singleton, if_pos (by omega), split,
    counts, List.replicate_succ]
  simp

theorem cString_zeros (text : Bytes) {k : Nat} (some : 0 < k) :
    cString (text ++ List.replicate k 0) = text.takeWhile (· ≠ 0) := by
  obtain ⟨k, rfl⟩ := Nat.exists_eq_add_of_lt some
  rw [cString, List.takeWhile_append]
  split
  next whole =>
    have all : text.takeWhile (· ≠ 0) = text := (List.takeWhile_prefix _).eq_of_length whole
    rw [all, List.replicate_succ, List.takeWhile_cons]
    simp
  · rfl

/-- What the code leaves in the string. A zero in the address cuts it off, and leaves the
string too long. -/
theorem spliceRawData_eq (expansion jsonStr : Bytes) (nonempty : jsonStr ≠ []) :
    spliceRawData expansion jsonStr =
      if expansion.length < 128 then
        some (inferenceRawData (expansion.takeWhile (· ≠ 0)) jsonStr ++
          List.replicate (expansion.length - (expansion.takeWhile (· ≠ 0)).length) 0)
      else none := by
  obtain ⟨c, rest, rfl⟩ := List.exists_cons_of_ne_nil nonempty
  have opening : (lit "\x7b\"zmq_com\":\"").length = 12 := by decide +kernel
  have closing : (lit "\",").length = 2 := by decide +kernel
  split
  next fits =>
    obtain ⟨left, fill⟩ : ∃ left, 128 = expansion.length + (left + 1) :=
      ⟨127 - expansion.length, by omega⟩
    have array := sprintf_zeros [] expansion fill
    have shorter : (expansion.takeWhile (· ≠ 0)).length ≤ expansion.length :=
      (List.takeWhile_prefix _).length_le
    have string := cString_zeros expansion (Nat.succ_pos left)
    unfold spliceRawData inferenceRawData zmqPushUrlArray
    generalize expansion.takeWhile (· ≠ 0) = url at shorter string ⊢
    generalize lit "\x7b\"zmq_com\":\"" = a at opening ⊢
    generalize lit "\"," = b at closing ⊢
    obtain ⟨spare, surplus⟩ := Nat.exists_eq_add_of_le shorter
    -- each write starts where the one before it has put its zero
    have first := @sprintf_zeros [] a (expansion.length + (c :: rest).length + 13 + 1)
      (spare + url.length + rest.length + 2) (by simp only [List.length_cons]; omega)
    have second := @sprintf_zeros a url _ (spare + rest.length + 2)
      (show spare + url.length + rest.length + 2 + 1 = _ by omega)
    have third := @sprintf_zeros (a ++ url) b _ (spare + rest.length)
      (show spare + rest.length + 2 + 1 = _ by omega)
    have fourth := store_replicate (a ++ url ++ b) rest (spare + rest.length + 1) 0
    rw [if_pos (by omega), show spare + rest.length + 1 - rest.length = spare + 1 by omega]
      at fourth
    simp only [List.nil_append, List.length_nil, List.length_append] at array first third fourth
    simp only [array, string, first, second, third, fourth, List.tail?_cons, Option.bind_eq_bind,
      Option.bind_some, List.tail_cons]
    have length : expansion.length + (c :: rest).length + 13 =
        (a ++ url ++ b ++ rest).length + spare := by
      simp only [List.length_append, List.length_cons]
      omega
    rw [length, List.take_length_add_append, List.take_replicate]
    congr 3
    omega
  next outside =>
    have array : sprintf zmqPushUrlArray 0 expansion = none := by
      refine if_neg fun room => outside ?_
      simp only [zmqPushUrlArray, List.length_append, List.length_singleton, List.length_replicate]
        at room
      omega
    simp [spliceRawData, array]

/-- The code makes the message exactly if the address fits into its array and has no zero. -/
theorem spliceRawData_iff (expansion jsonStr : Bytes) (nonempty : jsonStr ≠ []) :
    spliceRawData expansion jsonStr = some (inferenceRawData expansion jsonStr) ↔
      expansion.length < 128 ∧ 0 ∉ expansion := by
  have nonzero {text : Bytes} (none : 0 ∉ text) : ∀ c ∈ text, decide (c ≠ 0) = true := by
    intro c member
    exact decide_eq_true fun zero => none (zero ▸ member)
  rw [spliceRawData_eq expansion jsonStr nonempty]
  split
  next fits =>
    simp only [Option.some.injEq, fits, true_and]
    constructor
    · intro same zero
      obtain ⟨before, after, rfl, first⟩ := List.eq_append_cons_of_mem zero
      have cut : (before ++ 0 :: after).takeWhile (· ≠ 0) = before := by
        rw [List.takeWhile_append_of_pos (nonzero first), List.takeWhile_cons]
        simp
      -- behind the cut stands the closing quote, where the address has its zero
      have closing : lit "\"," = chr '"' :: lit "," := by decide +kernel
      rw [cut, inferenceRawData, inferenceRawData, closing] at same
      simp only [List.append_assoc, List.append_cancel_left_eq, List.cons_append] at same
      exact absurd (List.cons.inj same).1 (by decide)
    · intro none
      have whole : expansion.takeWhile (· ≠ 0) = expansion := by
        simpa using @List.takeWhile_append_of_pos _ _ expansion [] (nonzero none)
      rw [whole, Nat.sub_self, List.replicate_zero, List.append_nil]
  next outside => simp [outside]

end VllmRoute.Access
