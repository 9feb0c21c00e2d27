import VllmRoute.Channel.Extract

/-!
# JSON texts

The texts that clients send, as `json.dumps` writes them on one line, and how
the automaton of `sample_json_str_get` goes through their strings and braces.
A value is described by its text; the strings in it by the pieces they are
written with.
-/
namespace VllmRoute.Channel

/-! ### Strings -/

/-- The escapes of two characters. -/
inductive Escape where
  | quotation
  | backslash
  | slash
  | backspace
  | formFeed
  | lineFeed
  | carriageReturn
  | tab
  deriving DecidableEq

def Escape.letter : Escape → UInt8
  | .quotation => quote
  | .backslash => chr '\\'
  | .slash => chr '/'
  | .backspace => chr 'b'
  | .formFeed => chr 'f'
  | .lineFeed => chr 'n'
  | .carriageReturn => chr 'r'
  | .tab => chr 't'

/-- The character that the escape stands for. -/
def Escape.char : Escape → UInt8
  | .quotation => quote
  | .backslash => chr '\\'
  | .slash => chr '/'
  | .backspace => 8
  | .formFeed => 12
  | .lineFeed => chr '\n'
  | .carriageReturn => chr '\r'
  | .tab => chr '\t'

def hexValue (c : UInt8) : Option Nat :=
  if chr '0' ≤ c ∧ c ≤ chr '9' then some (c.toNat - 48)
  else if chr 'a' ≤ c ∧ c ≤ chr 'f' then some (c.toNat - 87)
  else if chr 'A' ≤ c ∧ c ≤ chr 'F' then some (c.toNat - 55)
  else none

abbrev HexDigit := { c : UInt8 // (hexValue c).isSome = true }

/-- What a string is written with: a byte for itself, an escape, or a code unit in hexadecimal. -/
inductive Piece where
  | plain (c : UInt8) (allowed : isPlain c = true ∧ 32 ≤ c)
  | escape (e : Escape)
  | codeUnit (a b c d : HexDigit)

def Piece.text : Piece → Bytes
  | .plain c _ => [c]
  | .escape e => [chr '\\', e.letter]
  | .codeUnit a b c d => [chr '\\', chr 'u', a, b, c, d]

/-- The characters between the quotes. -/
def bodyText (body : List Piece) : Bytes := body.flatMap Piece.text

/-- The pieces of a text without escapes. -/
def written (text : Bytes) : List Piece :=
  text.filterMap fun c =>
    if allowed : isPlain c = true ∧ 32 ≤ c then some (.plain c allowed) else none

@[simp] theorem bodyText_nil : bodyText [] = [] := rfl

theorem bodyText_cons (p : Piece) (body : List Piece) :
    bodyText (p :: body) = p.text ++ bodyText body := rfl

def HexDigit.value (digit : HexDigit) : Nat := (hexValue digit.1).get digit.2

/-- The UTF-16 code unit that the digits name. -/
def codeUnitValue (a b c d : HexDigit) : Nat :=
  ((a.value * 16 + b.value) * 16 + c.value) * 16 + d.value

def isHighSurrogate (unit : Nat) : Bool := 0xD800 ≤ unit && unit < 0xDC00

def isLowSurrogate (unit : Nat) : Bool := 0xDC00 ≤ unit && unit < 0xE000

/-- The string that is written, in UTF-8. A surrogate without its partner is no character. -/
def decode : List Piece → Option Bytes
  | [] => some []
  | .plain c _ :: body => (decode body).map (c :: ·)
  | .escape e :: body => (decode body).map (e.char :: ·)
  | .codeUnit a b c d :: body =>
    let high := codeUnitValue a b c d
    if isHighSurrogate high then
      match body with
      | .codeUnit a' b' c' d' :: body =>
        let low := codeUnitValue a' b' c' d'
        let point := 0x10000 + (high - 0xD800) * 0x400 + (low - 0xDC00)
        if isLowSurrogate low then
          (decode body).map (String.utf8EncodeChar (Char.ofNat point) ++ ·)
        else none
      | _ => none
    else if isLowSurrogate high then none
    else (decode body).map (String.utf8EncodeChar (Char.ofNat high) ++ ·)

theorem length_utf8EncodeChar_le (c : Char) : (String.utf8EncodeChar c).length ≤ 4 := by
  rw [String.length_utf8EncodeChar]
  exact c.utf8Size_le_four

/-- The string is what is written, or there are escapes and it is shorter. -/
def Shortens (raw text : Bytes) : Prop :=
  (chr '\\' ∉ raw ∧ text = raw) ∨ (chr '\\' ∈ raw ∧ text.length < raw.length)

theorem Shortens.length_le {raw text : Bytes} (shortens : Shortens raw text) :
    text.length ≤ raw.length := by
  rcases shortens with ⟨_, rfl⟩ | ⟨_, shorter⟩
  · exact Nat.le_refl _
  · exact Nat.le_of_lt shorter

theorem Shortens.escaped {raw text : Bytes} (shortens : Shortens raw text) (first part : Bytes)
    (escapes : chr '\\' ∈ first) (shorter : part.length < first.length) :
    Shortens (first ++ raw) (part ++ text) := by
  have rest := shortens.length_le
  refine Or.inr ⟨List.mem_append_left raw escapes, ?_⟩
  rw [List.length_append, List.length_append]
  omega

theorem Shortens.plain {raw text : Bytes} (shortens : Shortens raw text) {c : UInt8}
    (plain : isPlain c = true) : Shortens (c :: raw) (c :: text) := by
  simp only [isPlain, Bool.and_eq_true, decide_eq_true_eq] at plain
  rcases shortens with ⟨none, rfl⟩ | ⟨some, shorter⟩
  · exact Or.inl ⟨by simp [plain.2.symm, none], rfl⟩
  · exact Or.inr ⟨List.mem_cons_of_mem c some, Nat.succ_lt_succ shorter⟩

/-- Each escape is longer than what it stands for. -/
theorem decode_shortens {body : List Piece} {text : Bytes} (decoded : decode body = some text) :
    Shortens (bodyText body) text := by
  fun_induction decode body generalizing text with
  | case1 =>
    cases decoded
    exact Or.inl ⟨List.not_mem_nil, rfl⟩
  | case2 c allowed body ih =>
    obtain ⟨rest, inner, rfl⟩ := Option.map_eq_some_iff.mp decoded
    exact (ih inner).plain allowed.1
  | case3 e body ih =>
    obtain ⟨rest, inner, rfl⟩ := Option.map_eq_some_iff.mp decoded
    exact (ih inner).escaped [chr '\\', e.letter] [e.char] List.mem_cons_self (Nat.lt_add_one 1)
  | case4 a b c d high _ a' b' c' d' body low point _ =>
    rename_i ih
    obtain ⟨rest, inner, rfl⟩ := Option.map_eq_some_iff.mp decoded
    have size := length_utf8EncodeChar_le (Char.ofNat point)
    have pair := (ih inner).escaped
      ((Piece.codeUnit a b c d).text ++ (Piece.codeUnit a' b' c' d').text)
      (String.utf8EncodeChar (Char.ofNat point)) List.mem_cons_self
      (Nat.lt_of_le_of_lt size (by simp [Piece.text]))
    rwa [List.append_assoc] at pair
  | case8 a b c d body high _ _ =>
    rename_i ih
    obtain ⟨rest, inner, rfl⟩ := Option.map_eq_some_iff.mp decoded
    have size := length_utf8EncodeChar_le (Char.ofNat high)
    exact (ih inner).escaped (Piece.codeUnit a b c d).text _ List.mem_cons_self
      (Nat.lt_of_le_of_lt size (by simp [Piece.text]))
  | _ => cases decoded

/-! ### Values -/

/-- The characters of numbers and of the words `true`, `false` and `null`. -/
def isTokenChar (c : UInt8) : Bool :=
  (chr '0' ≤ c && c ≤ chr '9') || (chr 'a' ≤ c && c ≤ chr 'z') || (chr 'A' ≤ c && c ≤ chr 'Z') ||
    c = chr '+' || c = chr '-' || c = chr '.'

def separated (texts : List Bytes) : Bytes := (lit ", ").intercalate texts

def arrayText (items : List Bytes) : Bytes := chr '[' :: (separated items ++ [chr ']'])

def memberText (member : List Piece × Bytes) : Bytes :=
  quoted (bodyText member.1) ++ (lit ": " ++ member.2)

def objectText (members : List (List Piece × Bytes)) : Bytes :=
  chr '{' :: (separated (members.map memberText) ++ [chr '}'])

/-- The text of a value whose strings are all as `Str` says. -/
inductive ValueText (Str : List Piece → Prop) : Bytes → Prop where
  | scalar (token : Bytes) (nonempty : token ≠ []) (chars : ∀ c ∈ token, isTokenChar c = true) :
    ValueText Str token
  | string (body : List Piece) (allowed : Str body) : ValueText Str (quoted (bodyText body))
  | array (items : List Bytes) (values : ∀ value ∈ items, ValueText Str value) :
    ValueText Str (arrayText items)
  | object (members : List (List Piece × Bytes)) (names : ∀ member ∈ members, Str member.1)
      (values : ∀ member ∈ members, ValueText Str member.2) :
    ValueText Str (objectText members)

/-- The text of an object up to the member that follows these. -/
def opening (members : List (List Piece × Bytes)) : Bytes :=
  chr '{' :: members.flatMap fun member => memberText member ++ lit ", "

/-- The text of an object behind the member that these follow. -/
def closing (members : List (List Piece × Bytes)) : Bytes :=
  members.flatMap (fun member => lit ", " ++ memberText member) ++ [chr '}']

theorem separated_cons (text : Bytes) (texts : List Bytes) :
    separated (text :: texts) = text ++ texts.flatMap (lit ", " ++ ·) := by
  induction texts generalizing text with
  | nil => simp [separated, List.intercalate]
  | cons next texts ih =>
    have first : separated (text :: next :: texts) =
        text ++ (lit ", " ++ separated (next :: texts)) := by
      simp [separated, List.intercalate]
    rw [first, ih]
    simp

theorem separated_append_cons (before : List Bytes) (text : Bytes) (after : List Bytes) :
    separated (before ++ text :: after) =
      before.flatMap (· ++ lit ", ") ++ separated (text :: after) := by
  induction before with
  | nil => rfl
  | cons first before ih =>
    rw [List.cons_append, separated_cons]
    cases before with
    | nil => simp [separated_cons]
    | cons second before =>
      rw [List.cons_append, separated_cons] at ih
      simp only [List.cons_append, List.flatMap_cons, List.append_assoc] at ih ⊢
      rw [ih]

/-- A member in its place. -/
theorem objectText_split (pre post : List (List Piece × Bytes)) (name : List Piece)
    (value : Bytes) : objectText (pre ++ (name, value) :: post) =
      opening pre ++ (quoted (bodyText name) ++ (lit ": " ++ (value ++ closing post))) := by
  unfold objectText opening closing
  rw [List.map_append, List.map_cons, separated_append_cons, separated_cons]
  simp [memberText, List.flatMap_map]

/-! ### Braces -/

/-- The count of open braces, wherever they stand. -/
def braces (n : Int) (c : UInt8) : Int :=
  if c = chr '{' then n + 1 else if c = chr '}' then n - 1 else n

/-- How many characters there are up to the first one that brings the count to zero. -/
def closedAt : Int → Bytes → Option Nat
  | _, [] => none
  | n, c :: text =>
    if braces n c = 0 then some 1 else (closedAt (braces n c) text).map (· + 1)

/-- The braces of the text are balanced at its end and nowhere before. -/
def Closes (text : Bytes) : Prop := closedAt 0 text = some text.length

instance (text : Bytes) : Decidable (Closes text) := inferInstanceAs (Decidable (_ = _))

theorem closedAt_pos {n : Int} {text : Bytes} {k : Nat} (closed : closedAt n text = some k) :
    0 < k := by
  cases text with
  | nil => cases closed
  | cons c text =>
    unfold closedAt at closed
    split at closed
    · cases closed
      omega
    · obtain ⟨k', _, rfl⟩ := Option.map_eq_some_iff.mp closed
      omega

theorem closedAt_le {n : Int} {text : Bytes} {k : Nat} (closed : closedAt n text = some k) :
    k ≤ text.length := by
  induction text generalizing n k with
  | nil => cases closed
  | cons c text ih =>
    rw [List.length_cons]
    unfold closedAt at closed
    split at closed
    · cases closed
      omega
    · obtain ⟨k', later, rfl⟩ := Option.map_eq_some_iff.mp closed
      have := ih later
      omega

/-- What follows a nonempty text does not decide whether it is closed at its end. -/
theorem closedAt_append_iff (n : Int) (text rest : Bytes) (nonempty : text ≠ []) :
    closedAt n (text ++ rest) = some text.length ↔ closedAt n text = some text.length := by
  induction text generalizing n with
  | nil => exact absurd rfl nonempty
  | cons c text ih =>
    rw [List.cons_append]
    unfold closedAt
    split
    · exact Iff.rfl
    next =>
    cases text with
    | nil =>
      simp only [List.nil_append, List.length_singleton, Option.map_eq_some_iff]
      constructor
      · -- a count of characters is positive
        rintro ⟨k, closed, one⟩
        have := closedAt_pos closed
        omega
      · rintro ⟨k, closed, _⟩
        cases closed
    | cons d text =>
      have rest := ih (braces n c) (List.cons_ne_nil d text)
      simpa only [List.length_cons, Option.map_eq_some_iff, Nat.add_right_cancel_iff,
        exists_eq_right] using rest

/-- Inside of an object, the text does not change the count. -/
def Neutral (text : Bytes) : Prop :=
  ∀ n > 0, ∀ rest, closedAt n (text ++ rest) = (closedAt n rest).map (· + text.length)

theorem Neutral.append {text text' : Bytes} (first : Neutral text) (second : Neutral text') :
    Neutral (text ++ text') := by
  intro n inside rest
  rw [List.append_assoc, first n inside, second n inside, Option.map_map, List.length_append]
  congr 1
  funext k
  simp only [Function.comp_apply]
  omega

theorem Neutral.of_free {text : Bytes} (free : ∀ c ∈ text, c ≠ chr '{' ∧ c ≠ chr '}') :
    Neutral text := by
  induction text with
  | nil =>
    intro n inside rest
    simp
  | cons c text ih =>
    obtain ⟨here, later⟩ := List.forall_mem_cons.mp free
    intro n inside rest
    have same : braces n c = n := by simp [braces, here]
    rw [List.cons_append, closedAt, same, if_neg (by omega), ih later n inside, Option.map_map]
    rfl

theorem Neutral.flatMap {α : Type} {items : List α} {f : α → Bytes}
    (each : ∀ item ∈ items, Neutral (f item)) : Neutral (items.flatMap f) := by
  induction items with
  | nil => exact .of_free (by simp)
  | cons item items ih =>
    obtain ⟨here, later⟩ := List.forall_mem_cons.mp each
    exact here.append (ih later)

/-- A pair of braces around such a text is closed by the second one. -/
theorem Neutral.closedAt_braced {text : Bytes} (neutral : Neutral text) {n : Int} (inside : 0 ≤ n)
    (rest : Bytes) : closedAt n (chr '{' :: (text ++ chr '}' :: rest)) =
      if n = 0 then some (text.length + 2) else (closedAt n rest).map (· + (text.length + 2)) := by
  have up : braces n (chr '{') = n + 1 := by simp [braces]
  have down : braces (n + 1) (chr '}') = n := by
    have other : chr '}' ≠ chr '{' := by decide
    simp [braces, other]
  rw [closedAt, up, if_neg (by omega), neutral (n + 1) (by omega), closedAt, down]
  by_cases closed : n = 0
  · simp only [if_pos closed, Option.map_some, Option.some.injEq]
    omega
  · rw [if_neg closed, if_neg closed, Option.map_map, Option.map_map]
    congr 1
    funext k
    simp only [Function.comp_apply]
    omega

theorem Neutral.separated {texts : List Bytes} (each : ∀ text ∈ texts, Neutral text) :
    Neutral (separated texts) := by
  cases texts with
  | nil => exact .of_free (by simp [Channel.separated])
  | cons text texts =>
    obtain ⟨here, later⟩ := List.forall_mem_cons.mp each
    rw [separated_cons]
    apply here.append
    apply Neutral.flatMap
    exact fun next member => (of_free (by decide +kernel)).append (later next member)

/-- The string holds no braces. -/
def BraceFree (body : List Piece) : Prop := ∀ c ∈ bodyText body, c ≠ chr '{' ∧ c ≠ chr '}'

theorem BraceFree.quoted {body : List Piece} (free : BraceFree body) :
    Neutral (quoted (bodyText body)) := by
  apply Neutral.of_free
  intro c member
  simp only [Channel.quoted, List.cons_append, List.mem_cons, List.mem_append,
    List.not_mem_nil, or_false] at member
  rcases member with rfl | member | rfl
  · decide
  · exact free c member
  · decide

theorem isTokenChar_ne_brace {c : UInt8} (token : isTokenChar c = true) :
    c ≠ chr '{' ∧ c ≠ chr '}' := by
  constructor
  · rintro rfl
    revert token
    decide
  · rintro rfl
    revert token
    decide

theorem Neutral.members {members : List (List Piece × Bytes)}
    (names : ∀ member ∈ members, BraceFree member.1)
    (values : ∀ member ∈ members, Neutral member.2) :
    Neutral (Channel.separated (members.map memberText)) := by
  apply Neutral.separated
  intro text mapped
  obtain ⟨member, listed, rfl⟩ := List.mem_map.mp mapped
  have colon : Neutral (lit ": ") := of_free (by decide +kernel)
  exact (names member listed).quoted.append (colon.append (values member listed))

/-- Without braces in strings, every value is balanced. -/
theorem ValueText.neutral {value : Bytes} (valid : ValueText BraceFree value) : Neutral value := by
  induction valid with
  | scalar token _ chars => exact .of_free fun c member => isTokenChar_ne_brace (chars c member)
  | string body free => exact free.quoted
  | array items _ ih =>
    have bracket (c : UInt8) (other : c ≠ chr '{' ∧ c ≠ chr '}') : Neutral [c] :=
      .of_free (by simpa using other)
    exact (bracket (chr '[') (by decide)).append
      ((Neutral.separated ih).append (bracket (chr ']') (by decide)))
  | object members names _ ih =>
    intro n inside rest
    have braced := (Neutral.members names ih).closedAt_braced (Int.le_of_lt inside) rest
    rw [if_neg (by omega)] at braced
    simpa [objectText] using braced

theorem closes_objectText {members : List (List Piece × Bytes)}
    (names : ∀ member ∈ members, BraceFree member.1)
    (values : ∀ member ∈ members, ValueText BraceFree member.2) : Closes (objectText members) := by
  have neutral := Neutral.members names fun member listed => (values member listed).neutral
  have braced := neutral.closedAt_braced (Int.le_refl 0) []
  simpa [Closes, objectText] using braced

/-! ### The automaton -/

namespace Scan

/-- The character that the automaton looks back at behind this text. -/
def lookBack (lastC : UInt8) (text : Bytes) : UInt8 := text.getLast?.getD lastC

theorem lookBack_append (lastC : UInt8) (text text' : Bytes) :
    lookBack lastC (text ++ text') = lookBack (lookBack lastC text) text' := by
  unfold lookBack
  rw [List.getLast?_append]
  cases text'.getLast? <;> rfl

variable (lastC : UInt8) (objFlage : Int) (keyVal : Bytes)

/-- A character that does not end the string is kept. -/
theorem step_kept {c : UInt8} (kept : c ≠ quote ∨ lastC = chr '\\') :
    step ⟨.string, lastC, objFlage, keyVal⟩ c = ⟨.string, c, objFlage, keyVal ++ [c]⟩ := by
  have unended : ¬ (c = quote ∧ lastC ≠ chr '\\') := by
    rintro ⟨same, other⟩
    exact kept.elim (fun ne => ne same) other
  simp [step, dispatch, unended]

/-- A quote in a string follows a backslash. -/
theorem foldl_piece (p : Piece) :
    p.text.foldl step ⟨.string, lastC, objFlage, keyVal⟩ =
      ⟨.string, lookBack lastC p.text, objFlage, keyVal ++ p.text⟩ := by
  have backslash : chr '\\' ≠ quote := by decide
  cases p with
  | plain c allowed =>
    have kept : c ≠ quote := by
      have plain := allowed.1
      simp only [isPlain, Bool.and_eq_true, decide_eq_true_eq] at plain
      exact plain.1
    exact step_kept _ _ _ (Or.inl kept)
  | escape e =>
    simp only [Piece.text, List.foldl_cons, List.foldl_nil]
    rw [step_kept _ _ _ (Or.inl backslash), step_kept _ _ _ (Or.inr rfl)]
    simp [lookBack]
  | codeUnit a b c d =>
    have digit (x : HexDigit) : x.1 ≠ quote := by
      obtain ⟨x, digit⟩ := x
      rintro rfl
      exact absurd digit (by decide)
    simp only [Piece.text, List.foldl_cons, List.foldl_nil]
    rw [step_kept _ _ _ (Or.inl backslash), step_kept _ _ _ (Or.inr rfl),
      step_kept _ _ _ (Or.inl (digit a)), step_kept _ _ _ (Or.inl (digit b)),
      step_kept _ _ _ (Or.inl (digit c)), step_kept _ _ _ (Or.inl (digit d))]
    simp [lookBack]

theorem foldl_body (body : List Piece) :
    (bodyText body).foldl step ⟨.string, lastC, objFlage, keyVal⟩ =
      ⟨.string, lookBack lastC (bodyText body), objFlage, keyVal ++ bodyText body⟩ := by
  induction body generalizing lastC keyVal with
  | nil => simp [lookBack]
  | cons p body ih =>
    rw [bodyText_cons, List.foldl_append, foldl_piece, ih]
    simp [lookBack_append]

/-- Nothing that was kept is dropped in the loop. -/
theorem keyVal_prefix_step (s : Scan) (c : UInt8) : s.keyVal <+: (s.step c).keyVal := by
  unfold step dispatch
  dsimp only
  split
  · repeat' split
    all_goals simp
  · simp
  · split <;> simp
  · simp

theorem keyVal_prefix_foldl (s : Scan) (rest : Bytes) :
    s.keyVal <+: (rest.foldl step s).keyVal := by
  induction rest generalizing s with
  | nil => exact List.prefix_rfl
  | cons c rest ih => exact (keyVal_prefix_step s c).trans (ih (s.step c))

theorem step_object (c : UInt8) : step ⟨.object, lastC, objFlage, keyVal⟩ c =
    ⟨if braces objFlage c = 0 then .done else .object, c, braces objFlage c, keyVal ++ [c]⟩ := rfl

/-- Inside of an object every character is kept, up to the brace that closes it. -/
theorem foldl_object_closed {text : Bytes} {k : Nat} (closed : closedAt objFlage text = some k) :
    (text.foldl step ⟨.object, lastC, objFlage, keyVal⟩).keyVal = keyVal ++ text.take k ∧
      (text.foldl step ⟨.object, lastC, objFlage, keyVal⟩).objFlage = 0 := by
  induction text generalizing lastC objFlage keyVal k with
  | nil => cases closed
  | cons c text ih =>
    rw [List.foldl_cons, step_object]
    unfold closedAt at closed
    split at closed
    next zero =>
      cases closed
      rw [if_pos zero, zero]
      exact foldl_done _ rfl text
    next open' =>
      obtain ⟨k', later, rfl⟩ := Option.map_eq_some_iff.mp closed
      rw [if_neg open']
      simpa using ih c (braces objFlage c) (keyVal ++ [c]) later

theorem foldl_object_open {text : Bytes} (inside : objFlage ≠ 0)
    (never : closedAt objFlage text = none) :
    (text.foldl step ⟨.object, lastC, objFlage, keyVal⟩).objFlage ≠ 0 := by
  induction text generalizing lastC objFlage keyVal with
  | nil => exact inside
  | cons c text ih =>
    rw [List.foldl_cons, step_object]
    unfold closedAt at never
    split at never
    · cases never
    next open' =>
      rw [if_neg open']
      exact ih _ _ _ open' (Option.map_eq_none_iff.mp never)

end Scan

theorem blank_nil : ∀ c ∈ [], isBlank c = true := List.forall_mem_nil _

theorem blank_space : ∀ c ∈ [chr ' '], isBlank c = true :=
  List.forall_mem_singleton.mpr (by decide)

/-- A string value is read to its end, unless its last character is a backslash. -/
theorem readValue_string (afterKey beforeValue rest : Bytes) (body : List Piece)
    (blank : ∀ c ∈ afterKey, isBlank c = true) (blank' : ∀ c ∈ beforeValue, isBlank c = true)
    (last : (bodyText body).getLast? ≠ some (chr '\\')) :
    readValue (afterKey ++ chr ':' :: (beforeValue ++ (quoted (bodyText body) ++ rest))) =
      withoutSpaces beforeValue ++ bodyText body := by
  have ended : Scan.lookBack quote (bodyText body) ≠ chr '\\' := by
    unfold Scan.lookBack
    cases found : (bodyText body).getLast? with
    | none => exact (by decide : quote ≠ chr '\\')
    | some c => exact fun same => last (found.trans (congrArg some same))
  have closed (keyVal : Bytes) :
      Scan.step ⟨.string, Scan.lookBack quote (bodyText body), 1, keyVal⟩ quote =
        ⟨.done, quote, 0, keyVal⟩ := by
    simp [Scan.step, Scan.dispatch, ended]
  obtain ⟨keyVal, objFlage⟩ := Scan.foldl_done
    ⟨.done, quote, 0, withoutSpaces beforeValue ++ bodyText body⟩ rfl rest
  rw [readValue_quoted afterKey beforeValue _ rest blank blank', List.foldl_append,
    Scan.foldl_body, List.foldl_cons, closed]
  dsimp only
  rw [objFlage, keyVal]
  simp

/-- A string value whose last character is a backslash: its end is not seen. What is read then,
if the text ends the string at all, is longer. -/
theorem readValue_backslash (afterKey beforeValue rest : Bytes) (body : List Piece)
    (blank : ∀ c ∈ afterKey, isBlank c = true) (blank' : ∀ c ∈ beforeValue, isBlank c = true)
    (last : (bodyText body).getLast? = some (chr '\\')) :
    readValue (afterKey ++ chr ':' :: (beforeValue ++ (quoted (bodyText body) ++ rest))) = [] ∨
      withoutSpaces beforeValue ++ bodyText body ++ [quote] <+:
        readValue (afterKey ++ chr ':' :: (beforeValue ++ (quoted (bodyText body) ++ rest))) := by
  have escaped : Scan.lookBack quote (bodyText body) = chr '\\' := by
    rw [Scan.lookBack, last]
    rfl
  rw [readValue_quoted afterKey beforeValue _ rest blank blank', List.foldl_append,
    Scan.foldl_body, List.foldl_cons, Scan.step_kept _ _ _ (Or.inr escaped)]
  dsimp only
  split
  · exact Or.inl rfl
  · exact Or.inr (Scan.keyVal_prefix_foldl ⟨.string, quote, 1, _⟩ rest)

/-- An object is read up to the brace that brings the count to zero. -/
theorem readValue_object (afterKey beforeValue text : Bytes)
    (blank : ∀ c ∈ afterKey, isBlank c = true) (blank' : ∀ c ∈ beforeValue, isBlank c = true)
    (object : text.head? = some (chr '{')) :
    readValue (afterKey ++ chr ':' :: (beforeValue ++ text)) =
      ((closedAt 0 text).map fun k => withoutSpaces beforeValue ++ text.take k).getD [] := by
  obtain ⟨lastC, read⟩ := readValue_colon afterKey beforeValue text blank blank'
  obtain ⟨inner, rfl⟩ : ∃ inner, text = chr '{' :: inner := by
    cases text with
    | nil => cases object
    | cons c inner => exact ⟨inner, by rw [Option.some.inj object]⟩
  have opened : Scan.step ⟨.start, lastC, 1, withoutSpaces beforeValue⟩ (chr '{') =
    ⟨.object, chr '{', 1, withoutSpaces beforeValue ++ [chr '{']⟩ := rfl
  have counted : closedAt 0 (chr '{' :: inner) = (closedAt 1 inner).map (· + 1) := rfl
  rw [read, List.foldl_cons, opened, counted]
  cases closed : closedAt 1 inner with
  | none =>
    rw [if_pos (Scan.foldl_object_open _ _ _ (by decide) closed)]
    rfl
  | some k =>
    obtain ⟨keyVal, objFlage⟩ := Scan.foldl_object_closed (chr '{') 1
      (withoutSpaces beforeValue ++ [chr '{']) closed
    rw [objFlage, keyVal]
    simp

end VllmRoute.Channel
