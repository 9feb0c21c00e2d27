import VllmRoute.Access.KeyValue
import VllmRoute.Channel.Text

/-!
# The values of the nodes

The key/value calls that `StackFlow` offers to a node. A value is sent as a JSON
text, which the unit manager does not parse: it searches the text.
-/
namespace VllmRoute.Node

open Lib Access Channel

/-- A byte of a string in the text of `nlohmann::json::dump`. -/
def dumpByte (c : UInt8) : Bytes :=
  if c = quote then [chr '\\', quote]
  else if c = chr '\\' then [chr '\\', chr '\\']
  else if c = 8 then [chr '\\', chr 'b']
  else if c = 12 then [chr '\\', chr 'f']
  else if c = 10 then [chr '\\', chr 'n']
  else if c = 13 then [chr '\\', chr 'r']
  else if c = 9 then [chr '\\', chr 't']
  -- `%04x` of a number below 32
  else if c < 32 then
    [chr '\\', chr 'u', chr '0', chr '0', if c < 16 then chr '0' else chr '1',
      if c % 16 < 10 then 48 + c % 16 else 87 + c % 16]
  else [c]

def dumpBody (text : Bytes) : Bytes := text.flatMap dumpByte

/-- The text of a string; `dump` throws if the string is not UTF-8. -/
def dumpString (text : Bytes) : Option Bytes :=
  if validUtf8 text then some (quoted (dumpBody text)) else none

/-- The text of an object with the members `key` and `val`. -/
def keyValText (key val : Bytes) : Bytes :=
  chr '{' :: (quoted (lit "key") ++ chr ':' :: (key ++ chr ',' ::
    (quoted (lit "val") ++ chr ':' :: (val ++ [chr '}']))))

/-- A call of `sys_sql_select`, `sys_sql_set` or `sys_sql_unset` of `StackFlow`. -/
inductive StoreCall where
  | sysSqlSelect (key : Bytes)
  | sysSqlSet (key val : Bytes)
  | sysSqlUnset (key : Bytes)

namespace StoreCall

/-- The request that the call sends to the `sys` server. -/
def request : StoreCall → Option SysCall
  | .sysSqlSelect key => some (.sqlSelect key)
  | .sysSqlSet key val => do
    let key ← dumpString key
    let val ← dumpString val
    return .sqlSet (keyValText key val)
  | .sysSqlUnset key => some (.sqlUnset key)

/-- The call and its answer, empty where the function returns nothing. -/
def step (m : UnitManager) (call : StoreCall) : Option (Bytes × UnitManager) :=
  call.request.map fun request =>
    let (reply, m) := request.serve m
    match call with
    | .sysSqlSelect _ => (reply, m)
    | _ => ([], m)

end StoreCall

/-! ### Strings in the text -/

/-- The bytes that `dump` writes for themselves. -/
def isUnescaped (c : UInt8) : Bool := isPlain c && 32 ≤ c

theorem dumpByte_unescaped (c : UInt8) (unescaped : isUnescaped c = true) : dumpByte c = [c] := by
  have all : ∀ b : BitVec 8, isUnescaped ⟨b⟩ = true → dumpByte ⟨b⟩ = [⟨b⟩] := by decide +kernel
  exact all c.toBitVec unescaped

theorem length_dumpByte (c : UInt8) :
    1 ≤ (dumpByte c).length ∧ ((dumpByte c).length = 1 → isUnescaped c = true) := by
  have all : ∀ b : BitVec 8, 1 ≤ (dumpByte ⟨b⟩).length ∧
      ((dumpByte ⟨b⟩).length = 1 → isUnescaped ⟨b⟩ = true) := by decide +kernel
  exact all c.toBitVec

theorem dumpByte_piece (c : UInt8) : ∃ p : Piece, p.text = dumpByte c := by
  have low : ∀ b : BitVec 8,
      (hexValue (if (⟨b⟩ : UInt8) % 16 < 10 then 48 + ⟨b⟩ % 16
        else 87 + ⟨b⟩ % 16)).isSome = true := by
    decide +kernel
  have high : (hexValue (if c < 16 then chr '0' else chr '1')).isSome = true := by
    split <;> rfl
  by_cases quotation : c = quote
  · exact ⟨.escape .quotation, by rw [quotation]; rfl⟩
  by_cases backslash : c = chr '\\'
  · exact ⟨.escape .backslash, by rw [backslash]; rfl⟩
  by_cases backspace : c = 8
  · exact ⟨.escape .backspace, by rw [backspace]; rfl⟩
  by_cases formFeed : c = 12
  · exact ⟨.escape .formFeed, by rw [formFeed]; rfl⟩
  by_cases lineFeed : c = 10
  · exact ⟨.escape .lineFeed, by rw [lineFeed]; rfl⟩
  by_cases carriageReturn : c = 13
  · exact ⟨.escape .carriageReturn, by rw [carriageReturn]; rfl⟩
  by_cases tab : c = 9
  · exact ⟨.escape .tab, by rw [tab]; rfl⟩
  rw [dumpByte, if_neg quotation, if_neg backslash, if_neg backspace, if_neg formFeed,
    if_neg lineFeed, if_neg carriageReturn, if_neg tab]
  by_cases control : c < 32
  · rw [if_pos control]
    exact ⟨.codeUnit ⟨chr '0', rfl⟩ ⟨chr '0', rfl⟩ ⟨_, high⟩ ⟨_, low c.toBitVec⟩, rfl⟩
  · rw [if_neg control]
    have allowed : isPlain c = true ∧ 32 ≤ c :=
      ⟨by simp [isPlain, quotation, backslash], UInt8.not_lt.mp control⟩
    exact ⟨.plain c allowed, rfl⟩

theorem dumpBody_pieces (text : Bytes) : ∃ body, bodyText body = dumpBody text := by
  induction text with
  | nil => exact ⟨[], rfl⟩
  | cons c text ih =>
    obtain ⟨p, first⟩ := dumpByte_piece c
    obtain ⟨body, rest⟩ := ih
    refine ⟨p :: body, ?_⟩
    rw [bodyText_cons, first, rest]
    rfl

theorem dumpBody_unescaped {text : Bytes} (unescaped : ∀ c ∈ text, isUnescaped c = true) :
    dumpBody text = text := by
  induction text with
  | nil => rfl
  | cons c text ih =>
    obtain ⟨first, rest⟩ := List.forall_mem_cons.mp unescaped
    rw [dumpBody, List.flatMap_cons, dumpByte_unescaped c first]
    exact congrArg (c :: ·) (ih rest)

/-- Every escape makes the text longer. -/
theorem length_dumpBody (text : Bytes) : text.length ≤ (dumpBody text).length ∧
    ((dumpBody text).length = text.length → ∀ c ∈ text, isUnescaped c = true) := by
  induction text with
  | nil => exact ⟨Nat.le_refl 0, fun _ => List.forall_mem_nil _⟩
  | cons c text ih =>
    obtain ⟨some, single⟩ := length_dumpByte c
    obtain ⟨grown, rest⟩ := ih
    have split : (dumpBody (c :: text)).length = (dumpByte c).length + (dumpBody text).length := by
      rw [dumpBody, List.flatMap_cons, List.length_append]
      rfl
    rw [split, List.length_cons]
    constructor
    · omega
    · intro same
      exact List.forall_mem_cons.mpr ⟨single (by omega), rest (by omega)⟩

/-- What the search reads from the text of a string is the string exactly if it is written
without escapes. -/
theorem readValue_dump_iff (text rest : Bytes) :
    readValue (chr ':' :: (quoted (dumpBody text) ++ rest)) = text ↔
      ∀ c ∈ text, isUnescaped c = true := by
  obtain ⟨body, written⟩ := dumpBody_pieces text
  obtain ⟨grown, tight⟩ := length_dumpBody text
  by_cases last : (dumpBody text).getLast? = some (chr '\\')
  · -- the closing quote is taken for one of the string
    have escaped : ¬ ∀ c ∈ text, isUnescaped c = true := by
      intro unescaped
      rw [dumpBody_unescaped unescaped] at last
      have bad := unescaped _ (List.mem_of_getLast? last)
      revert bad
      decide
    have read := readValue_backslash [] [] rest body blank_nil blank_nil (written ▸ last)
    rw [written] at read
    refine iff_of_false (fun same => ?_) escaped
    rcases read with nothing | longer
    · rw [List.nil_append, List.nil_append] at nothing
      rw [nothing] at same
      exact escaped (same ▸ List.forall_mem_nil _)
    · have bound := longer.length_le
      rw [List.nil_append, List.nil_append, same] at bound
      simp [withoutSpaces] at bound
      omega
  · have read := readValue_string [] [] rest body blank_nil blank_nil (written ▸ last)
    rw [written] at read
    rw [List.nil_append, List.nil_append] at read
    rw [read]
    constructor
    · intro same
      apply tight
      simpa [withoutSpaces] using congrArg List.length same
    · intro unescaped
      rw [dumpBody_unescaped unescaped]
      rfl

/-! ### The two members -/

theorem sampleJsonStrGet_first (before : Bytes) {name after : Bytes}
    (first : ∀ j < before.length, ¬ OccursAt (quoted name) (before ++ (quoted name ++ after)) j) :
    sampleJsonStrGet (before ++ (quoted name ++ after)) name = readValue after := by
  have found : find (quoted name) (before ++ (quoted name ++ after)) = some before.length :=
    (find_eq_some_iff _ _ _).mpr ⟨occursAt_append before _ after, first⟩
  rw [sampleJsonStrGet, found]
  dsimp only
  rw [← List.drop_drop, List.drop_left, List.drop_left]

theorem sampleJsonStrGet_key (key val : Bytes) :
    sampleJsonStrGet (keyValText key val) (lit "key") =
      readValue (chr ':' :: (key ++ chr ',' ::
        (quoted (lit "val") ++ chr ':' :: (val ++ [chr '}'])))) := by
  apply sampleJsonStrGet_first [chr '{']
  intro j before occurs
  obtain rfl : j = 0 := by simpa using before
  have brace := (List.cons_prefix_cons.mp occurs.2).1
  revert brace
  decide

/-- A text without quotes in quotes: the closing quote of one is that of the other. -/
theorem unquoted_eq {a b rest : Bytes} (plain : quote ∉ a) (plain' : quote ∉ b)
    (within : a ++ [quote] <+: b ++ quote :: rest) : a = b := by
  induction a generalizing b with
  | nil =>
    cases b with
    | nil => rfl
    | cons d b =>
      have first := (List.cons_prefix_cons.mp within).1
      exact absurd (first ▸ List.mem_cons_self) plain'
  | cons c a ih =>
    cases b with
    | nil =>
      have first := (List.cons_prefix_cons.mp within).1
      exact absurd (first ▸ List.mem_cons_self) plain
    | cons d b =>
      obtain ⟨rfl, later⟩ := List.cons_prefix_cons.mp within
      rw [ih (fun member => plain (List.mem_cons_of_mem c member))
        (fun member => plain' (List.mem_cons_of_mem c member)) later]

/-- The text up to the value of `key`, with the quote that opens it. -/
def keyOpening : Bytes := chr '{' :: (quoted (lit "key") ++ [chr ':', quote])

theorem keyValText_opening (key val : Bytes) :
    keyValText (quoted key) val = keyOpening ++ (key ++ quote :: chr ',' ::
      (quoted (lit "val") ++ chr ':' :: (val ++ [chr '}']))) := by
  have unfolded (rest : Bytes) : quoted key ++ rest = quote :: (key ++ quote :: rest) := by
    rw [quoted, List.append_assoc]
    rfl
  rw [keyValText, unfolded]
  rfl

/-- There is no `val` in quotes before the value of `key`. -/
theorem val_not_in_opening {rest : Bytes} {j : Nat} (early : j < 7) :
    ¬ OccursAt (quoted (lit "val")) (keyOpening ++ rest) j := by
  intro occurs
  have within {i : Nat} (inside : i < 8) : (keyOpening ++ rest)[i]? = keyOpening[i]? :=
    List.getElem?_append_left inside
  have here : keyOpening[j]? = some quote := by
    rw [← within (Nat.lt_succ_of_lt early)]
    exact occurs.getElem? (k := 0) (by decide)
  have next : keyOpening[j + 1]? = some (chr 'v') := by
    rw [← within (Nat.succ_lt_succ early)]
    exact occurs.getElem? (k := 1) (by decide)
  have never : ∀ j < 7, ¬ (keyOpening[j]? = some quote ∧ keyOpening[j + 1]? = some (chr 'v')) := by
    decide +kernel
  exact never j early ⟨here, next⟩

/-- The quoted `val` that the search finds is the name of the member, unless the key is `val`. -/
theorem val_not_earlier {key rest : Bytes} (plain : quote ∉ key) (other : key ≠ lit "val") {j : Nat}
    (early : j < (keyOpening ++ (key ++ [quote, chr ','])).length) :
    ¬ OccursAt (quoted (lit "val"))
      (keyOpening ++ (key ++ [quote, chr ',']) ++ (quoted (lit "val") ++ rest)) j := by
  rw [List.append_assoc]
  by_cases start : j < 7
  · exact val_not_in_opening start
  rcases Nat.lt_or_eq_of_le (Nat.not_lt.mp start) with inside | rfl
  · -- inside the key there is no quote, and after the one behind it comes no `v`
    obtain ⟨i, rfl⟩ : ∃ i, j = keyOpening.length + i := ⟨j - 8, by
      have eight : keyOpening.length = 8 := by decide
      omega⟩
    intro occurs
    have here := occurs.getElem? (k := 0) (by decide)
    have next := occurs.getElem? (k := 1) (by decide)
    rw [Nat.add_assoc, List.getElem?_append_right (Nat.le_add_right _ _), Nat.add_sub_cancel_left,
      List.append_assoc] at here next
    rw [List.length_append, List.length_append] at early
    rcases Nat.lt_trichotomy i key.length with inKey | rfl | behind
    · rw [Nat.add_zero, List.getElem?_append_left inKey] at here
      exact plain (List.mem_of_getElem? here)
    · rw [List.getElem?_append_right (Nat.le_add_right _ _), Nat.add_sub_cancel_left] at next
      have comma : some (chr ',') = some (chr 'v') := next
      revert comma
      decide
    · obtain rfl : i = key.length + 1 := by
        have two : [quote, chr ','].length = 2 := rfl
        omega
      rw [Nat.add_zero, List.getElem?_append_right (Nat.le_add_right _ _),
        Nat.add_sub_cancel_left] at here
      have comma : some (chr ',') = some quote := here
      revert comma
      decide
  · -- the quote that opens the value of the key
    rintro ⟨_, within⟩
    have rest' : (keyOpening ++ (key ++ [quote, chr ','] ++ (quoted (lit "val") ++ rest))).drop 7 =
        quote :: (key ++ quote :: (chr ',' :: (quoted (lit "val") ++ rest))) := by
      rw [List.append_assoc]
      rfl
    rw [rest'] at within
    have same := unquoted_eq (by decide) plain (List.cons_prefix_cons.mp within).2
    exact other same.symm

theorem sampleJsonStrGet_val {key : Bytes} (plain : quote ∉ key) (other : key ≠ lit "val")
    (val : Bytes) :
    sampleJsonStrGet (keyValText (quoted key) val) (lit "val") =
      readValue (chr ':' :: (val ++ [chr '}'])) := by
  have split : keyValText (quoted key) val = keyOpening ++ (key ++ [quote, chr ',']) ++
      (quoted (lit "val") ++ chr ':' :: (val ++ [chr '}'])) := by
    rw [keyValText_opening, List.append_assoc, List.append_assoc]
    rfl
  rw [split]
  exact sampleJsonStrGet_first _ fun j early => val_not_earlier plain other early

/-- The key `val` itself is taken for the name of the member, and the comma behind it ends the
search. -/
theorem sampleJsonStrGet_val_val (val : Bytes) :
    sampleJsonStrGet (keyValText (quoted (lit "val")) val) (lit "val") = [] := by
  have split : keyValText (quoted (lit "val")) val = keyOpening.take 7 ++ (quoted (lit "val") ++
      chr ',' :: (quoted (lit "val") ++ chr ':' :: (val ++ [chr '}']))) := by
    rw [keyValText_opening]
    rfl
  have read (rest : Bytes) : readValue (chr ',' :: rest) = [] := by
    obtain ⟨keyVal, objFlage⟩ := Scan.foldl_done (Scan.step {} (chr ',')) rfl rest
    rw [readValue, List.foldl_cons, keyVal, objFlage]
    rfl
  rw [split, sampleJsonStrGet_first, read]
  intro j early
  rw [← split, keyValText_opening]
  exact val_not_in_opening early

end VllmRoute.Node
