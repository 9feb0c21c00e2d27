import VllmRoute.Base
import VllmRoute.Lib.Search

/-!
# Members by text search

`sample_json_str_get` looks for the first occurrence of the quoted name and
reads the value with a small automaton over the characters that follow.
-/
namespace VllmRoute.Channel

open Lib

def quote : UInt8 := chr '"'

def quoted (text : Bytes) : Bytes := quote :: text ++ [quote]

/-- `status` with its values 0, 10, 100 and -1. -/
inductive Status where
  | start
  | object
  | string
  | done
  deriving DecidableEq

/-- The variables of the loop. -/
structure Scan where
  status : Status := .start
  lastC : UInt8 := 0
  objFlage : Int := 0
  keyVal : Bytes := []

namespace Scan

/-- One round of the loop, without the assignment of `last_c` at its end. -/
def dispatch (s : Scan) (c : UInt8) : Scan :=
  match s.status with
  | .start =>
    -- a quote opens the value, also where no colon came before it
    if c = quote then { s with status := .string }
    else if c = chr '{' then
      { s with keyVal := s.keyVal ++ [c], objFlage := 1, status := .object }
    else if c = chr ':' then { s with objFlage := 1 }
    -- the end of a member without quotes
    else if c = chr ',' ∨ c = chr '}' then { s with objFlage := 0, status := .done }
    else if c = chr ' ' then s
    else if s.objFlage ≠ 0 then { s with keyVal := s.keyVal ++ [c] }
    else s
  | .object =>
    -- braces inside strings are counted like the others
    let objFlage :=
      if c = chr '{' then s.objFlage + 1 else if c = chr '}' then s.objFlage - 1 else s.objFlage
    { s with
      keyVal := s.keyVal ++ [c]
      objFlage := objFlage
      status := if objFlage = 0 then .done else .object }
  | .string =>
    -- a quote after a backslash belongs to the text, and so does the backslash
    if c = quote ∧ s.lastC ≠ chr '\\' then { s with objFlage := 0, status := .done }
    else { s with keyVal := s.keyVal ++ [c] }
  | .done => s

def step (s : Scan) (c : UInt8) : Scan := { s.dispatch c with lastC := c }

end Scan

/-- The value read from the characters after the quoted name. -/
def readValue (rest : Bytes) : Bytes :=
  let s := rest.foldl Scan.step {}
  -- an unfinished value is dropped
  if s.objFlage ≠ 0 then [] else s.keyVal

def sampleJsonStrGet (jsonStr jsonKey : Bytes) : Bytes :=
  let findKey := quoted jsonKey
  match find findKey jsonStr with
  | none => []
  | some subsStart => readValue (jsonStr.drop (subsStart + findKey.length))

/-! ### Strings -/

/-- The blanks of JSON. -/
def isBlank (c : UInt8) : Bool := c = chr ' ' || c = chr '\t' || c = chr '\n' || c = chr '\r'

/-- The characters of a string without escapes. -/
def isPlain (c : UInt8) : Bool := c ≠ quote && c ≠ chr '\\'

def withoutSpaces (blanks : Bytes) : Bytes := blanks.filter fun c => c ≠ chr ' '

namespace Scan

theorem foldl_done (s : Scan) (finished : s.status = .done) (rest : Bytes) :
    (rest.foldl step s).keyVal = s.keyVal ∧ (rest.foldl step s).objFlage = s.objFlage := by
  induction rest generalizing s with
  | nil => exact ⟨rfl, rfl⟩
  | cons c rest ih =>
    have next : s.step c = { s with lastC := c } := by simp [step, dispatch, finished]
    rw [List.foldl_cons, next]
    exact ih { s with lastC := c } finished

/-- Blanks before the colon leave no trace; after it only spaces are skipped. -/
theorem step_blank (s : Scan) (waiting : s.status = .start) (c : UInt8) (blank : isBlank c = true) :
    s.step c = { s with
      lastC := c
      keyVal := if s.objFlage ≠ 0 ∧ c ≠ chr ' ' then s.keyVal ++ [c] else s.keyVal } := by
  -- a blank is none of the characters that the automaton reacts to
  have other : c ≠ quote ∧ c ≠ chr '{' ∧ c ≠ chr ':' ∧ c ≠ chr ',' ∧ c ≠ chr '}' := by
    simp only [isBlank, Bool.or_eq_true, decide_eq_true_eq] at blank
    rcases blank with ((rfl | rfl) | rfl) | rfl <;> decide
  by_cases space : c = chr ' '
  · simp_all [step, dispatch]
  · by_cases flagged : s.objFlage = 0 <;> simp_all [step, dispatch]

theorem foldl_blanks (s : Scan) (waiting : s.status = .start) (blanks : Bytes)
    (blank : ∀ c ∈ blanks, isBlank c = true) : ∃ lastC, blanks.foldl step s = { s with
      lastC := lastC
      keyVal := s.keyVal ++ if s.objFlage = 0 then [] else withoutSpaces blanks } := by
  -- on the blanks, with the state they leave behind
  induction blanks generalizing s with
  | nil => exact ⟨s.lastC, by simp [withoutSpaces]⟩
  | cons c blanks ih =>
    obtain ⟨first, rest⟩ := List.forall_mem_cons.mp blank
    rw [List.foldl_cons, step_blank s waiting c first]
    obtain ⟨lastC, reached⟩ := ih { s with
      lastC := c
      keyVal := if s.objFlage ≠ 0 ∧ c ≠ chr ' ' then s.keyVal ++ [c] else s.keyVal } waiting rest
    refine ⟨lastC, reached.trans ?_⟩
    by_cases flagged : s.objFlage = 0
    · simp [flagged]
    · by_cases space : c = chr ' ' <;> simp [withoutSpaces, flagged, space]

theorem foldl_plain (s : Scan) (reading : s.status = .string) (unescaped : s.lastC ≠ chr '\\')
    (text : Bytes) (plain : ∀ c ∈ text, isPlain c = true) :
    ∃ lastC, lastC ≠ chr '\\' ∧
      text.foldl step s = { s with lastC := lastC, keyVal := s.keyVal ++ text } := by
  -- no character of the text ends the string, and the last one is no backslash
  induction text generalizing s with
  | nil => exact ⟨s.lastC, unescaped, by simp⟩
  | cons c text ih =>
    obtain ⟨first, rest⟩ := List.forall_mem_cons.mp plain
    simp only [isPlain, Bool.and_eq_true, decide_eq_true_eq] at first
    have next : s.step c = { s with lastC := c, keyVal := s.keyVal ++ [c] } := by
      simp [step, dispatch, reading, first.1]
    rw [List.foldl_cons, next]
    obtain ⟨lastC, good, reached⟩ := ih { s with lastC := c, keyVal := s.keyVal ++ [c] } reading
      first.2 rest
    exact ⟨lastC, good, reached.trans (by simp)⟩

/-- From the opening quote of a string on. -/
theorem foldl_string (s : Scan) (reading : s.status = .string) (unescaped : s.lastC ≠ chr '\\')
    (text rest : Bytes) (plain : ∀ c ∈ text, isPlain c = true) :
    ((text ++ quote :: rest).foldl step s).keyVal = s.keyVal ++ text ∧
      ((text ++ quote :: rest).foldl step s).objFlage = 0 := by
  obtain ⟨lastC, good, reached⟩ := foldl_plain s reading unescaped text plain
  have closed : step { s with lastC := lastC, keyVal := s.keyVal ++ text } quote =
      { status := .done, lastC := quote, objFlage := 0, keyVal := s.keyVal ++ text } := by
    simp [step, dispatch, reading, good]
  rw [List.foldl_append, reached, List.foldl_cons, closed]
  exact foldl_done _ rfl rest

end Scan

/-- From the colon of a member to its value. -/
theorem readValue_colon (afterKey beforeValue rest : Bytes)
    (blank : ∀ c ∈ afterKey, isBlank c = true) (blank' : ∀ c ∈ beforeValue, isBlank c = true) :
    ∃ lastC, readValue (afterKey ++ chr ':' :: (beforeValue ++ rest)) =
      if (rest.foldl Scan.step ⟨.start, lastC, 1, withoutSpaces beforeValue⟩).objFlage ≠ 0 then []
      else (rest.foldl Scan.step ⟨.start, lastC, 1, withoutSpaces beforeValue⟩).keyVal := by
  obtain ⟨c₁, toColon⟩ : ∃ c, afterKey.foldl Scan.step {} = { lastC := c } := by
    simpa using Scan.foldl_blanks {} rfl afterKey blank
  have colon : Scan.step { lastC := c₁ } (chr ':') = { lastC := chr ':', objFlage := 1 } := rfl
  obtain ⟨c₂, toValue⟩ : ∃ c, beforeValue.foldl Scan.step { lastC := chr ':', objFlage := 1 } =
      ⟨.start, c, 1, withoutSpaces beforeValue⟩ := by
    simpa using Scan.foldl_blanks { lastC := chr ':', objFlage := 1 } rfl beforeValue blank'
  refine ⟨c₂, ?_⟩
  unfold readValue
  rw [List.foldl_append, toColon, List.foldl_cons, colon, List.foldl_append, toValue]

/-- From the colon of a member into the string that is its value. -/
theorem readValue_quoted (afterKey beforeValue value rest : Bytes)
    (blank : ∀ c ∈ afterKey, isBlank c = true) (blank' : ∀ c ∈ beforeValue, isBlank c = true) :
    readValue (afterKey ++ chr ':' :: (beforeValue ++ (quoted value ++ rest))) =
      let s := (value ++ quote :: rest).foldl Scan.step
        ⟨.string, quote, 1, withoutSpaces beforeValue⟩
      if s.objFlage ≠ 0 then [] else s.keyVal := by
  obtain ⟨lastC, read⟩ := readValue_colon afterKey beforeValue (quoted value ++ rest) blank blank'
  have opened : Scan.step ⟨.start, lastC, 1, withoutSpaces beforeValue⟩ quote =
    ⟨.string, quote, 1, withoutSpaces beforeValue⟩ := rfl
  have whole : quoted value ++ rest = quote :: (value ++ quote :: rest) := by simp [quoted]
  rw [read, whole, List.foldl_cons, opened]

/-- A member whose value is a string without escapes: the string is read, with the blanks
before it that are not spaces. -/
theorem readValue_member (afterKey beforeValue value rest : Bytes)
    (blank : ∀ c ∈ afterKey, isBlank c = true) (blank' : ∀ c ∈ beforeValue, isBlank c = true)
    (plain : ∀ c ∈ value, isPlain c = true) :
    readValue (afterKey ++ chr ':' :: (beforeValue ++ (quoted value ++ rest))) =
      withoutSpaces beforeValue ++ value := by
  have unescaped : quote ≠ chr '\\' := by decide
  obtain ⟨keyVal, objFlage⟩ := Scan.foldl_string
    ⟨.string, quote, 1, withoutSpaces beforeValue⟩ rfl unescaped value rest plain
  rw [readValue_quoted afterKey beforeValue value rest blank blank']
  simp only [objFlage, keyVal, ne_eq, not_true_eq_false, if_false]

/-! ### What is read is text -/

namespace Scan

/-- What was read can be completed by what is left. Before the colon nothing is kept, and
the scan may stand inside of a character. -/
def Readable (s : Scan) (rest : Bytes) : Prop :=
  match s.status with
  | .start =>
    if s.objFlage = 0 then s.keyVal = [] ∧ ∃ before, validUtf8 (before ++ rest) = true
    else validUtf8 (s.keyVal ++ rest) = true
  | .object => s.objFlage ≠ 0 ∧ validUtf8 (s.keyVal ++ rest) = true
  | .string => validUtf8 (s.keyVal ++ rest) = true
  | .done => validUtf8 s.keyVal = true

private theorem validUtf8_ascii {c : UInt8} (ascii : c.toNat < 128) : validUtf8 [c] = true := by
  have all : ∀ n < 128, validUtf8 [UInt8.ofNat n] = true := by decide +kernel
  have one := all c.toNat ascii
  rwa [UInt8.ofNat_toNat] at one

/-- At an ASCII character in the initial status, both sides of it are text. -/
theorem Readable.split {s : Scan} {c : UInt8} {rest : Bytes} (readable : s.Readable (c :: rest))
    (waiting : s.status = .start) (ascii : c.toNat < 128) :
    validUtf8 s.keyVal = true ∧ validUtf8 rest = true := by
  simp only [Readable, waiting] at readable
  split at readable
  · obtain ⟨empty, before, valid⟩ := readable
    exact ⟨by rw [empty]; rfl, (validUtf8_split ascii valid).2⟩
  · exact validUtf8_split ascii readable

private theorem Readable.step_start {s : Scan} {c : UInt8} {rest : Bytes}
    (readable : s.Readable (c :: rest)) (status : s.status = .start) :
    (s.step c).Readable rest := by
  unfold Scan.step dispatch
  simp only [status]
  by_cases opening : c = quote
  · subst opening
    obtain ⟨value, text⟩ := readable.split status (by decide)
    simpa [Readable, quote] using validUtf8_append value text
  by_cases brace : c = chr '{'
  · subst brace
    obtain ⟨value, text⟩ := readable.split status (by decide)
    have joined := validUtf8_append (validUtf8_append value (validUtf8_ascii (c := chr '{')
      (by decide))) text
    simpa [Readable, opening] using joined
  by_cases colon : c = chr ':'
  · subst colon
    obtain ⟨value, text⟩ := readable.split status (by decide)
    simpa [Readable, opening, brace, status] using validUtf8_append value text
  by_cases ending : c = chr ',' ∨ c = chr '}'
  · have ascii : c.toNat < 128 := by
      rcases ending with rfl | rfl <;> decide
    simpa [Readable, opening, brace, colon, ending] using (readable.split status ascii).1
  -- the other characters are skipped, or kept from the colon on
  rw [if_neg opening, if_neg brace, if_neg colon, if_neg ending]
  simp only [Readable, status] at readable
  by_cases flagged : s.objFlage = 0
  · rw [if_pos flagged] at readable
    obtain ⟨empty, before, valid⟩ := readable
    have kept : ∃ before, validUtf8 (before ++ rest) = true :=
      ⟨before ++ [c], by simpa using valid⟩
    by_cases space : c = chr ' ' <;> simp [Readable, space, flagged, status, empty, kept]
  · rw [if_neg flagged] at readable
    by_cases space : c = chr ' '
    · subst space
      obtain ⟨value, text⟩ := validUtf8_split (by decide) readable
      simpa [Readable, status, flagged] using validUtf8_append value text
    · simpa [Readable, space, status, flagged] using readable

private theorem Readable.step_object {s : Scan} {c : UInt8} {rest : Bytes}
    (readable : s.Readable (c :: rest)) (status : s.status = .object) :
    (s.step c).Readable rest := by
  simp only [Readable, status] at readable
  obtain ⟨inside, valid⟩ := readable
  have kept : validUtf8 ((s.keyVal ++ [c]) ++ rest) = true := by simpa using valid
  unfold Scan.step dispatch
  simp only [status, Readable]
  by_cases closed : (if c = chr '{' then s.objFlage + 1
      else if c = chr '}' then s.objFlage - 1 else s.objFlage) = 0
  · -- only a brace can end the object
    have ascii : c.toNat < 128 := by
      by_cases brace : c = chr '{'
      · rw [brace]
        decide
      · by_cases brace' : c = chr '}'
        · rw [brace']
          decide
        · rw [if_neg brace, if_neg brace'] at closed
          exact absurd closed inside
    rw [if_pos closed]
    exact validUtf8_append (validUtf8_split ascii valid).1 (validUtf8_ascii ascii)
  · rw [if_neg closed]
    exact ⟨closed, kept⟩

private theorem Readable.step_string {s : Scan} {c : UInt8} {rest : Bytes}
    (readable : s.Readable (c :: rest)) (status : s.status = .string) :
    (s.step c).Readable rest := by
  simp only [Readable, status] at readable
  unfold Scan.step dispatch
  simp only [status]
  by_cases closing : c = quote ∧ s.lastC ≠ chr '\\'
  · rw [if_pos closing]
    have ascii : c.toNat < 128 := by
      rw [closing.1]
      decide
    exact (validUtf8_split ascii readable).1
  · rw [if_neg closing]
    simpa [Readable, status] using readable

theorem Readable.step {s : Scan} {c : UInt8} {rest : Bytes} (readable : s.Readable (c :: rest)) :
    (s.step c).Readable rest := by
  cases status : s.status with
  | start => exact readable.step_start status
  | object => exact readable.step_object status
  | string => exact readable.step_string status
  | done =>
    simp only [Readable, status] at readable
    simpa [Readable, Scan.step, dispatch, status] using readable

theorem Readable.foldl {s : Scan} {rest : Bytes} (readable : s.Readable rest) :
    (rest.foldl Scan.step s).Readable [] := by
  induction rest generalizing s with
  | nil => exact readable
  | cons c rest ih => exact ih readable.step

end Scan

/-- The members found in a text are text. -/
theorem validUtf8_sampleJsonStrGet {jsonStr : Bytes} (valid : validUtf8 jsonStr = true)
    (jsonKey : Bytes) : validUtf8 (sampleJsonStrGet jsonStr jsonKey) = true := by
  unfold sampleJsonStrGet
  dsimp only
  split
  · rfl
  next i _ =>
    generalize i + (quoted jsonKey).length = n
    have started : Scan.Readable {} (jsonStr.drop n) :=
      ⟨rfl, jsonStr.take n, by rwa [List.take_append_drop]⟩
    have ended := started.foldl
    unfold readValue
    dsimp only
    split
    · rfl
    next flagged =>
      have flagged := not_not.mp flagged
      revert ended
      generalize (jsonStr.drop n).foldl Scan.step {} = s at flagged
      unfold Scan.Readable
      split
      · rw [if_pos flagged]
        rintro ⟨empty, _⟩
        rw [empty]
        rfl
      · exact fun ended => absurd flagged ended.1
      · simp
      · exact id

end VllmRoute.Channel
