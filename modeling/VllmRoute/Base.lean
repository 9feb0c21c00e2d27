import Mathlib.Data.List.Basic

/-!
# C++ values

`std::string` is read in two ways. Text that came off a socket is an arbitrary
byte list (`Bytes`); text that came out of a JSON value has passed the parser's
UTF-8 check and is a `String`. `int` arithmetic is done in `Int`, with
`toInt32` where the source narrows or may wrap.
-/
namespace VllmRoute

abbrev Bytes := List UInt8

/-- The bytes of a C++ string literal, or of a string taken from a JSON value. -/
def lit (s : String) : Bytes := s.toByteArray.data.toList

/-- A C++ character literal. -/
def chr (c : Char) : UInt8 := c.toUInt8

/-- The text that a C function reads from these bytes. -/
def cString (memory : Bytes) : Bytes := memory.takeWhile (· ≠ 0)

/-- Decodes at most `n` characters off the front. -/
def decodes : Nat → Bytes → Bool
  | 0, b => b.isEmpty
  | n + 1, b =>
    if b.isEmpty then true
    else match (ByteArray.mk b.toArray).utf8DecodeChar? 0 with
      | some c => decodes n (b.drop c.utf8Size)
      | none => false

/-- The check that `json::dump` makes on every string it writes. -/
def validUtf8 (b : Bytes) : Bool := decodes b.length b

theorem lit_eq_flatMap (s : String) : lit s = s.toList.flatMap String.utf8EncodeChar := by
  have encoded : s.toByteArray = s.toList.utf8Encode := by
    rw [← String.toByteArray_ofList, String.ofList_toList]
  simp [lit, encoded, List.utf8Encode]

private theorem decodes_encoded (l : List Char) (n : Nat) (enough : l.length ≤ n) :
    decodes n (l.flatMap String.utf8EncodeChar) = true := by
  induction l generalizing n with
  | nil => cases n <;> rfl
  | cons c l ih =>
    cases n with
    | zero => simp at enough
    | succ n =>
      have size := String.length_utf8EncodeChar c
      have nonempty : ((c :: l).flatMap String.utf8EncodeChar).isEmpty = false := by
        have := c.utf8Size_pos
        cases first : String.utf8EncodeChar c with
        | nil => simp [first] at size; omega
        | cons b bs => simp [first]
      -- the model works on byte lists, the library on byte arrays
      have bytes : ByteArray.mk ((c :: l).flatMap String.utf8EncodeChar).toArray =
          (c :: l).utf8Encode := by
        simp [List.utf8Encode, ByteArray.ext_iff]
      simp only [decodes, nonempty, Bool.false_eq_true, if_false, bytes,
        List.utf8DecodeChar?_utf8Encode_cons]
      rw [List.flatMap_cons, ← size, List.drop_left]
      exact ih n (by simpa using enough)

private theorem length_le_encoded (l : List Char) :
    l.length ≤ (l.flatMap String.utf8EncodeChar).length := by
  induction l with
  | nil => simp
  | cons c l ih =>
    have := c.utf8Size_pos
    simp only [List.flatMap_cons, List.length_append, String.length_utf8EncodeChar,
      List.length_cons]
    omega

/-- The strings of a JSON value pass the check. -/
@[simp] theorem validUtf8_lit (s : String) : validUtf8 (lit s) = true := by
  rw [lit_eq_flatMap]
  exact decodes_encoded _ _ (length_le_encoded _)

@[simp] theorem validUtf8_nil : validUtf8 [] = true := rfl

private theorem decodes_mono {n m : Nat} {b : Bytes} (more : n ≤ m) (decoded : decodes n b = true) :
    decodes m b = true := by
  induction n generalizing m b with
  | zero =>
    have empty : b = [] := List.isEmpty_iff.mp decoded
    subst empty
    cases m <;> rfl
  | succ n ih =>
    obtain ⟨m, rfl⟩ : ∃ k, m = k + 1 := ⟨m - 1, by omega⟩
    unfold decodes at decoded ⊢
    split
    · rfl
    next nonempty =>
      rw [if_neg nonempty] at decoded
      split at decoded
      · exact ih (by omega) decoded
      · cases decoded

private theorem decodes_append {n m : Nat} {a b : Bytes} (first : decodes n a = true)
    (second : decodes m b = true) : decodes (n + m) (a ++ b) = true := by
  induction n generalizing a with
  | zero =>
    have empty : a = [] := List.isEmpty_iff.mp first
    subst empty
    simpa using second
  | succ n ih =>
    rw [Nat.add_right_comm]
    unfold decodes at first
    split at first
    next empty =>
      rw [List.isEmpty_iff.mp empty]
      exact decodes_mono (by omega) second
    next nonempty =>
      split at first
      next c decoded =>
        have size : c.utf8Size ≤ a.length := by
          simpa [ByteArray.size] using ByteArray.le_size_of_utf8DecodeChar?_eq_some decoded
        -- a character that is there already is decoded alike with more bytes behind it
        have joined : (ByteArray.mk (a ++ b).toArray).utf8DecodeChar? 0 = some c := by
          have extended := ByteArray.utf8DecodeChar?_append_eq_some decoded (ByteArray.mk b.toArray)
          have bytes : ByteArray.mk (a ++ b).toArray =
              ByteArray.mk a.toArray ++ ByteArray.mk b.toArray := by
            simp [ByteArray.ext_iff]
          rw [bytes, extended]
        have rest := ih first
        have filled : (a ++ b).isEmpty = false := by
          cases a with
          | nil => exact absurd rfl nonempty
          | cons x a => rfl
        simp only [decodes, filled, Bool.false_eq_true, if_false, joined]
        rwa [List.drop_append_of_le_length size]
      next => cases first

theorem validUtf8_append {a b : Bytes} (first : validUtf8 a = true) (second : validUtf8 b = true) :
    validUtf8 (a ++ b) = true := by
  rw [validUtf8, List.length_append]
  exact decodes_append first second

private theorem encoded_of_decodes {n : Nat} {b : Bytes} (decoded : decodes n b = true) :
    ∃ l : List Char, b = l.flatMap String.utf8EncodeChar := by
  induction n generalizing b with
  | zero => exact ⟨[], List.isEmpty_iff.mp decoded⟩
  | succ n ih =>
    unfold decodes at decoded
    split at decoded
    next empty => exact ⟨[], List.isEmpty_iff.mp empty⟩
    next =>
      split at decoded
      next c first =>
        obtain ⟨l, rest⟩ := ih decoded
        have bytes := congrArg (·.data.toList) (ByteArray.eq_of_utf8DecodeChar?_eq_some first)
        have whole : (b.drop c.utf8Size).take (b.length - c.utf8Size) = b.drop c.utf8Size :=
          List.take_of_length_le (by simp)
        refine ⟨c :: l, ?_⟩
        rw [List.flatMap_cons, ← rest]
        simpa [ByteArray.size, whole] using bytes
      next => cases decoded

/-- The bytes of a character that is not ASCII are none of ASCII. -/
private theorem utf8EncodeChar_high {c : Char} (large : 127 < c.val.toNat) {b : UInt8}
    (member : b ∈ String.utf8EncodeChar c) : 128 ≤ b.toNat := by
  unfold String.utf8EncodeChar at member
  rw [if_neg (by omega)] at member
  split at member
  · rcases List.mem_cons.mp member with rfl | member
    · simp only [UInt8.toNat_ofNat']
      omega
    · obtain rfl := List.mem_singleton.mp member
      simp only [UInt8.toNat_ofNat']
      omega
  · split at member
    · simp only [List.mem_cons, List.not_mem_nil, or_false] at member
      rcases member with rfl | rfl | rfl <;> simp only [UInt8.toNat_ofNat'] <;> omega
    · simp only [List.mem_cons, List.not_mem_nil, or_false] at member
      rcases member with rfl | rfl | rfl | rfl <;> simp only [UInt8.toNat_ofNat'] <;> omega

private theorem encoded_split {l : List Char} {a b : Bytes} {c : UInt8} (ascii : c.toNat < 128)
    (split : l.flatMap String.utf8EncodeChar = a ++ c :: b) :
    ∃ l₁ l₂ : List Char, a = l₁.flatMap String.utf8EncodeChar ∧
      b = l₂.flatMap String.utf8EncodeChar := by
  induction l generalizing a with
  | nil => simp at split
  | cons d l ih =>
    rw [List.flatMap_cons] at split
    rcases List.append_eq_append_iff.mp split with ⟨rest, whole, tail⟩ | ⟨rest, head, tail⟩
    · -- the character belongs to the first part
      obtain ⟨l₁, l₂, first, second⟩ := ih tail
      exact ⟨d :: l₁, l₂, by rw [whole, first, List.flatMap_cons], second⟩
    · cases rest with
      | nil =>
        have tail : l.flatMap String.utf8EncodeChar = [] ++ c :: b := by simpa using tail.symm
        obtain ⟨l₁, l₂, first, second⟩ := ih tail
        exact ⟨d :: l₁, l₂, by simpa [← first] using head.symm, second⟩
      | cons e rest =>
        -- the byte belongs to this character, which is then the byte alone
        rw [List.cons_append, List.cons.injEq] at tail
        obtain ⟨rfl, tail⟩ := tail
        have small : d.val.toNat ≤ 127 := by
          by_contra large
          have high := utf8EncodeChar_high (b := c) (by omega : 127 < d.val.toNat) (by simp [head])
          omega
        have one : (String.utf8EncodeChar d).length = 1 := by
          unfold String.utf8EncodeChar
          rw [if_pos small]
          rfl
        have lengths := congrArg List.length head
        simp only [one, List.length_append, List.length_cons] at lengths
        obtain rfl : a = [] := List.eq_nil_of_length_eq_zero (by omega)
        obtain rfl : rest = [] := List.eq_nil_of_length_eq_zero (by omega)
        exact ⟨[], l, rfl, by simpa using tail⟩

/-- Text can be cut at every ASCII character. -/
theorem validUtf8_split {a b : Bytes} {c : UInt8} (ascii : c.toNat < 128)
    (valid : validUtf8 (a ++ c :: b) = true) : validUtf8 a = true ∧ validUtf8 b = true := by
  obtain ⟨l, encoded⟩ := encoded_of_decodes valid
  obtain ⟨l₁, l₂, rfl, rfl⟩ := encoded_split ascii encoded.symm
  exact ⟨decodes_encoded _ _ (length_le_encoded _), decodes_encoded _ _ (length_le_encoded _)⟩

example : validUtf8 [0x61, 0xff] = false := by decide

/-- An early return leaves a `do` block at the first error. -/
theorem bind_ok_iff {ε α β : Type} (x : Except ε α) (f : α → Except ε β) (b : β) :
    (x >>= f) = .ok b ↔ ∃ a, x = .ok a ∧ f a = .ok b := by
  cases x <;> simp [bind, Except.bind]

/-- `static_cast<int>` of a wider integer. -/
def toInt32 (n : Int) : Int := n.bmod 4294967296

def intMax : Int := 2147483647
def intMin : Int := -2147483648

theorem toInt32_eq_self {n : Int} (low : intMin ≤ n) (high : n ≤ intMax) : toInt32 n = n := by
  unfold intMin at low
  unfold intMax at high
  unfold toInt32
  rw [Int.bmod_eq_of_le (by omega) (by omega)]

theorem intMin_le_toInt32 (n : Int) : intMin ≤ toInt32 n := Int.le_bmod (by decide)

theorem toInt32_le_intMax (n : Int) : toInt32 n ≤ intMax := by
  have below : toInt32 n < 2147483648 := Int.bmod_lt (by decide)
  unfold intMax
  omega

theorem toInt32_le_self {n : Int} (positive : 0 ≤ n) : toInt32 n ≤ n := by
  unfold toInt32 Int.bmod
  dsimp only
  split <;> omega

/-- `isspace` in the C locale. -/
def isSpace (c : UInt8) : Bool :=
  c = chr ' ' || c = chr '\t' || c = chr '\n' || c = chr '\r' || c = 11 || c = 12

def isDigit (c : UInt8) : Bool := chr '0' ≤ c && c ≤ chr '9'

def digitsValue (ds : Bytes) : Int :=
  ds.foldl (fun n d => n * 10 + ((d.toNat : Int) - 48)) 0

/-- `std::stoi`: leading blanks, a sign, and as many digits as there are. `none`
is the exception: no digit at all, or a value outside `int`. -/
def stoi (s : Bytes) : Option Int :=
  let body := s.dropWhile isSpace
  let negative := body.head? = some (chr '-')
  let unsigned := if negative || body.head? = some (chr '+') then body.tail else body
  let digits := unsigned.takeWhile isDigit
  if digits.isEmpty then none
  else
    let n := if negative then -(digitsValue digits) else digitsValue digits
    if intMin ≤ n ∧ n ≤ intMax then some n else none

example : stoi (lit " -42x") = some (-42) := by decide
example : stoi (lit "x") = none := by decide

/-! ### Printed numbers -/

/-- `std::to_string` of an `int`. -/
def decimal (n : Int) : Bytes := lit (toString n)

private theorem digit_bounds {d : Char} (digit : d.isDigit = true) :
    48 ≤ d.val.toNat ∧ d.val.toNat ≤ 57 := by
  simp only [Char.isDigit, Bool.and_eq_true, decide_eq_true_eq, UInt32.le_iff_toNat_le,
    ge_iff_le] at digit
  exact digit

private theorem toNat_chr {d : Char} (digit : d.isDigit = true) : (chr d).toNat = d.toNat := by
  have := digit_bounds digit
  simp only [chr, Char.toUInt8, UInt32.toNat_toUInt8, Char.toNat]
  omega

private theorem lit_ofDigits (ds : List Char) (digits : ∀ d ∈ ds, d.isDigit = true) :
    lit (String.ofList ds) = ds.map chr := by
  rw [lit_eq_flatMap, String.toList_ofList]
  induction ds with
  | nil => rfl
  | cons d ds ih =>
    have bounds := digit_bounds (digits d (by simp))
    have one : String.utf8EncodeChar d = [chr d] := by
      have small : d.val.toNat ≤ 127 := by omega
      unfold String.utf8EncodeChar
      rw [if_pos small]
      rfl
    rw [List.flatMap_cons, List.map_cons, one, ih fun e member => digits e (by simp [member])]
    rfl

private theorem isDigit_chr {d : Char} (digit : d.isDigit = true) : isDigit (chr d) = true := by
  have bounds := digit_bounds digit
  have same := toNat_chr digit
  simp only [isDigit, Bool.and_eq_true, decide_eq_true_eq, UInt8.le_iff_toNat_le, same]
  exact bounds

private theorem digitsValue_map_chr (ds : List Char) (digits : ∀ d ∈ ds, d.isDigit = true)
    (init : Nat) :
    (ds.map chr).foldl (fun n d => n * 10 + ((d.toNat : Int) - 48)) (init : Int) =
      Nat.ofDigitChars 10 ds init := by
  induction ds generalizing init with
  | nil => rfl
  | cons d ds ih =>
    have bounds := digit_bounds (digits d (by simp))
    have value : (init : Int) * 10 + (((chr d).toNat : Int) - 48) =
        ((10 * init + (d.toNat - '0'.toNat) : Nat) : Int) := by
      rw [toNat_chr (digits d (by simp))]
      have zero : '0'.toNat = 48 := rfl
      have : d.toNat = d.val.toNat := rfl
      omega
    rw [List.map_cons, List.foldl_cons, value, Nat.ofDigitChars_cons]
    exact ih (fun e member => digits e (by simp [member])) _

theorem decimal_natCast (n : Nat) :
    decimal n = (Nat.toDigits 10 n).map chr := by
  have digits : ∀ d ∈ Nat.toDigits 10 n, d.isDigit = true :=
    fun d => Nat.isDigit_of_mem_toDigits (by decide) (by decide)
  have text : toString (n : Int) = String.ofList (Nat.toDigits 10 n) := Nat.repr_eq_ofList_toDigits
  rw [decimal, text, lit_ofDigits _ digits]

theorem decimal_negSucc (n : Nat) :
    decimal (Int.negSucc n) = chr '-' :: (Nat.toDigits 10 (n + 1)).map chr := by
  have digits : ∀ d ∈ Nat.toDigits 10 (n + 1), d.isDigit = true :=
    fun d => Nat.isDigit_of_mem_toDigits (by decide) (by decide)
  have text : toString (Int.negSucc n) = "-" ++ String.ofList (Nat.toDigits 10 (n + 1)) :=
    congrArg ("-" ++ ·) Nat.repr_eq_ofList_toDigits
  have split (a b : String) : lit (a ++ b) = lit a ++ lit b := by simp [lit]
  rw [decimal, text, split, lit_ofDigits _ digits]
  rfl

private theorem isDigit_toDigits {n : Nat} {c : UInt8} (member : c ∈ (Nat.toDigits 10 n).map chr) :
    isDigit c = true := by
  obtain ⟨d, among, rfl⟩ := List.mem_map.mp member
  exact isDigit_chr (Nat.isDigit_of_mem_toDigits (by decide) (by decide) among)

theorem decimal_bytes {n : Int} {c : UInt8} (member : c ∈ decimal n) :
    c = chr '-' ∨ isDigit c = true := by
  cases n with
  | ofNat n =>
    have printed : decimal (Int.ofNat n) = (Nat.toDigits 10 n).map chr := decimal_natCast n
    rw [printed] at member
    exact Or.inr (isDigit_toDigits member)
  | negSucc n =>
    rw [decimal_negSucc] at member
    rcases List.mem_cons.mp member with sign | digit
    · exact Or.inl sign
    · exact Or.inr (isDigit_toDigits digit)

private theorem takeWhile_digits (n : Nat) (rest : Bytes)
    (stops : ∀ c ∈ rest.head?, isDigit c = false) :
    ((Nat.toDigits 10 n).map chr ++ rest).takeWhile isDigit = (Nat.toDigits 10 n).map chr := by
  rw [List.takeWhile_append_of_pos fun c => isDigit_toDigits]
  cases rest with
  | nil => simp
  | cons c rest => simp [stops c (by simp)]

private theorem digitsValue_toDigits (n : Nat) :
    digitsValue ((Nat.toDigits 10 n).map chr) = n := by
  have value := digitsValue_map_chr (Nat.toDigits 10 n)
    (fun d => Nat.isDigit_of_mem_toDigits (by decide) (by decide)) 0
  rw [Nat.ofDigitChars_toDigits (by decide) (by decide)] at value
  exact value

private theorem isDigit_class {c : UInt8} (digit : isDigit c = true) :
    isSpace c = false ∧ c ≠ chr '-' ∧ c ≠ chr '+' := by
  refine ⟨?_, ?_, ?_⟩
  · rw [isSpace, ← Bool.not_eq_true]
    simp only [Bool.or_eq_true, decide_eq_true_eq]
    rintro (((((rfl | rfl) | rfl) | rfl) | rfl) | rfl) <;> revert digit <;> decide
  · rintro rfl
    revert digit
    decide
  · rintro rfl
    revert digit
    decide

private theorem toDigits_cons (n : Nat) : ∃ c cs, (Nat.toDigits 10 n).map chr = c :: cs ∧
    isDigit c = true := by
  cases digits : Nat.toDigits 10 n with
  | nil => exact absurd digits Nat.toDigits_ne_nil
  | cons d ds =>
    have member : d ∈ Nat.toDigits 10 n := by simp [digits]
    exact ⟨chr d, ds.map chr, rfl,
      isDigit_chr (Nat.isDigit_of_mem_toDigits (by decide) (by decide) member)⟩

/-- What `std::stoi` reads of a printed `int`, whatever follows it but a digit. -/
theorem stoi_decimal (n : Int) (rest : Bytes) (low : intMin ≤ n) (high : n ≤ intMax)
    (stops : ∀ c ∈ rest.head?, isDigit c = false) : stoi (decimal n ++ rest) = some n := by
  cases n with
  | ofNat n =>
    -- the first digit is neither skipped as a blank nor taken for a sign
    obtain ⟨c, cs, split, digit⟩ := toDigits_cons n
    obtain ⟨notSpace, notMinus, notPlus⟩ := isDigit_class digit
    have digits := takeWhile_digits n rest stops
    have value := digitsValue_toDigits n
    have printed : decimal (Int.ofNat n) = (Nat.toDigits 10 n).map chr := decimal_natCast n
    rw [split, List.cons_append] at digits
    rw [split] at value
    rw [printed, split, List.cons_append]
    simp only [stoi, List.dropWhile_cons, notSpace, Bool.false_eq_true, if_false, List.head?_cons,
      Option.some.injEq, notMinus, notPlus, decide_false, Bool.or_false, digits, value]
    rw [if_neg (by simp)]
    exact if_pos ⟨low, high⟩
  | negSucc n =>
    -- the sign is read off first, and the digits are those of the absolute value
    obtain ⟨c, cs, split, digit⟩ := toDigits_cons (n + 1)
    have digits := takeWhile_digits (n + 1) rest stops
    have value := digitsValue_toDigits (n + 1)
    have notSpace : isSpace (chr '-') = false := by decide
    rw [split] at digits value
    rw [decimal_negSucc, split, List.cons_append]
    simp only [stoi, List.dropWhile_cons, notSpace, Bool.false_eq_true, if_false, List.head?_cons,
      decide_true, Bool.true_or, if_true, List.tail_cons, digits, value]
    rw [if_neg (by simp)]
    exact if_pos ⟨low, high⟩

theorem decimal_injective {m n : Int} (same : decimal m = decimal n) : m = n := by
  have ofNat (n : Nat) : decimal (Int.ofNat n) = (Nat.toDigits 10 n).map chr := decimal_natCast n
  -- a negative number starts with its sign
  have sign (n k : Nat) : (Nat.toDigits 10 n).map chr ≠ chr '-' :: (Nat.toDigits 10 k).map chr := by
    obtain ⟨c, cs, split, digit⟩ := toDigits_cons n
    intro equal
    rw [split, List.cons.injEq] at equal
    exact (isDigit_class digit).2.1 equal.1
  have digits {n k : Nat} (equal : (Nat.toDigits 10 n).map chr = (Nat.toDigits 10 k).map chr) :
      n = k := by
    have values := congrArg digitsValue equal
    rw [digitsValue_toDigits, digitsValue_toDigits] at values
    exact_mod_cast values
  cases m with
  | ofNat m =>
    cases n with
    | ofNat n =>
      rw [ofNat, ofNat] at same
      rw [digits same]
    | negSucc n => exact absurd (by rwa [ofNat, decimal_negSucc] at same) (sign m (n + 1))
  | negSucc m =>
    cases n with
    | ofNat n => exact absurd (by rwa [ofNat, decimal_negSucc, eq_comm] at same) (sign n (m + 1))
    | negSucc n =>
      rw [decimal_negSucc, decimal_negSucc, List.cons.injEq] at same
      have equal := digits same.2
      rw [Nat.succ.inj equal]

end VllmRoute
