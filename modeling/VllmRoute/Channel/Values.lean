import VllmRoute.Channel.Text

/-!
# What stands behind a name

`sample_json_str_get` reads on from wherever the quoted name occurs first, be it
the key of a member, the key of a member of a nested object, or a string that is
itself a value. Here is what it reads, in terms of the text alone.
-/
namespace VllmRoute.Channel

/-- The characters at which a value begins or ends. -/
def isDelimiter (c : UInt8) : Bool :=
  c = quote || c = chr '{' || c = chr ',' || c = chr '}'

/-- A character of a bare value. -/
def isBare (c : UInt8) : Bool := c ≠ chr ':' && c ≠ chr ' '

/-- What is kept of the text up to the delimiter: from the first colon on, all but colons and
spaces. -/
def bareText (between : Bytes) : Bytes :=
  (between.dropWhile fun c => c ≠ chr ':').filter isBare

/-- The text that follows a name has this value. -/
inductive ValueAfter (value : Bytes) : Bytes → Prop where
  /-- up to a comma or a closing brace -/
  | bare {between : Bytes} {c : UInt8} {after : Bytes}
      (free : ∀ c ∈ between, isDelimiter c = false) (ends : c = chr ',' ∨ c = chr '}')
      (same : bareText between = value) : ValueAfter value (between ++ c :: after)
  | string {between text after : Bytes}
      (free : ∀ c ∈ between, isDelimiter c = false)
      (same : bareText between ++ text = value) :
      ValueAfter value (between ++ (quoted text ++ after))
  | object {between text after : Bytes}
      (free : ∀ c ∈ between, isDelimiter c = false) (opens : text.head? = some (chr '{'))
      (closes : Closes text) (same : bareText between ++ text = value) :
      ValueAfter value (between ++ (text ++ after))
  /-- braces that are never balanced -/
  | unclosed {between text : Bytes}
      (free : ∀ c ∈ between, isDelimiter c = false) (opens : text.head? = some (chr '{'))
      (never : closedAt 0 text = none) (same : value = []) : ValueAfter value (between ++ text)

namespace Scan

/-- The automaton behind a name, before a delimiter: the flag says whether a colon was seen. -/
theorem step_between (lastC : UInt8) (objFlage : Int) (keyVal : Bytes) {c : UInt8}
    (free : isDelimiter c = false) : step ⟨.start, lastC, objFlage, keyVal⟩ c =
      ⟨.start, c, if c = chr ':' then 1 else objFlage,
        if objFlage ≠ 0 ∧ isBare c = true then keyVal ++ [c] else keyVal⟩ := by
  simp only [isDelimiter, Bool.or_eq_false_iff, decide_eq_false_iff_not] at free
  obtain ⟨⟨⟨noQuote, noBrace⟩, noComma⟩, noEnd⟩ := free
  by_cases colon : c = chr ':'
  · subst colon
    simp [step, dispatch, isBare, noQuote, noBrace]
  · by_cases space : c = chr ' '
    · subst space
      simp [step, dispatch, isBare, noQuote, noBrace, noComma, noEnd, colon]
    · by_cases flagged : objFlage = 0
      · simp [step, dispatch, isBare, noQuote, noBrace, noComma, noEnd, colon, space, flagged]
      · simp [step, dispatch, isBare, noQuote, noBrace, noComma, noEnd, colon, space, flagged]

/-- From the colon on. -/
theorem foldl_bare (lastC : UInt8) (keyVal between : Bytes)
    (free : ∀ c ∈ between, isDelimiter c = false) :
    between.foldl step ⟨.start, lastC, 1, keyVal⟩ =
      ⟨.start, lookBack lastC between, 1, keyVal ++ between.filter isBare⟩ := by
  induction between generalizing lastC keyVal with
  | nil => simp [lookBack]
  | cons c between ih =>
    obtain ⟨here, later⟩ := List.forall_mem_cons.mp free
    have back : lookBack lastC (c :: between) = lookBack c between :=
      lookBack_append lastC [c] between
    rw [List.foldl_cons, step_between _ _ _ here, back, List.filter_cons, ite_self]
    by_cases bare : isBare c = true
    · rw [if_pos ⟨by decide, bare⟩, if_pos bare, ih _ _ later, List.append_assoc,
        List.singleton_append]
    · rw [if_neg fun both => bare both.2, if_neg bare, ih _ _ later]

/-- From the name on. -/
theorem foldl_between (lastC : UInt8) (between : Bytes)
    (free : ∀ c ∈ between, isDelimiter c = false) :
    between.foldl step ⟨.start, lastC, 0, []⟩ =
      ⟨.start, lookBack lastC between, if chr ':' ∈ between then 1 else 0, bareText between⟩ := by
  induction between generalizing lastC with
  | nil => simp [lookBack, bareText]
  | cons c between ih =>
    obtain ⟨here, later⟩ := List.forall_mem_cons.mp free
    have back : lookBack lastC (c :: between) = lookBack c between :=
      lookBack_append lastC [c] between
    have nothing : ¬ ((0 : Int) ≠ 0 ∧ isBare c = true) := fun both => both.1 rfl
    rw [List.foldl_cons, step_between _ _ _ here, if_neg nothing, back]
    by_cases colon : c = chr ':'
    · subst colon
      rw [if_pos rfl, foldl_bare _ _ _ later]
      simp [bareText, isBare]
    · rw [if_neg colon, ih c later]
      simp [bareText, colon, Ne.symm colon]

/-- A string is read to its first quote that does not follow a backslash, if there is one. -/
theorem foldl_quote (lastC : UInt8) (objFlage : Int) (keyVal text after : Bytes)
    (unescaped : lookBack lastC text ≠ chr '\\') :
    ∃ string rest, text ++ quote :: after = string ++ quote :: rest ∧
      ((text ++ quote :: after).foldl step ⟨.string, lastC, objFlage, keyVal⟩).keyVal =
        keyVal ++ string ∧
      ((text ++ quote :: after).foldl step ⟨.string, lastC, objFlage, keyVal⟩).objFlage = 0 := by
  have closed {lastC : UInt8} (other : lastC ≠ chr '\\') (keyVal : Bytes) :
      step ⟨.string, lastC, objFlage, keyVal⟩ quote = ⟨.done, quote, 0, keyVal⟩ := by
    simp [step, dispatch, other]
  induction text generalizing lastC keyVal with
  | nil =>
    obtain ⟨value, flag⟩ := foldl_done ⟨.done, quote, 0, keyVal⟩ rfl after
    refine ⟨[], after, rfl, ?_⟩
    have other : lastC ≠ chr '\\' := unescaped
    rw [List.nil_append, List.foldl_cons, closed other, List.append_nil]
    exact ⟨value, flag⟩
  | cons c text ih =>
    rw [List.cons_append, List.foldl_cons]
    by_cases ends : c = quote ∧ lastC ≠ chr '\\'
    · obtain ⟨rfl, other⟩ := ends
      obtain ⟨value, flag⟩ := foldl_done ⟨.done, quote, 0, keyVal⟩ rfl (text ++ quote :: after)
      refine ⟨[], text ++ quote :: after, rfl, ?_⟩
      rw [closed other, List.append_nil]
      exact ⟨value, flag⟩
    · have goesOn : c ≠ quote ∨ lastC = chr '\\' := by
        by_cases same : c = quote
        · exact Or.inr (not_not.mp fun other => ends ⟨same, other⟩)
        · exact Or.inl same
      have back : lookBack lastC (c :: text) = lookBack c text := lookBack_append lastC [c] text
      rw [back] at unescaped
      obtain ⟨string, rest, split, value, flag⟩ := ih c (keyVal ++ [c]) unescaped
      refine ⟨c :: string, rest, by rw [split]; rfl, ?_⟩
      rw [step_kept _ _ _ goesOn]
      exact ⟨by rw [value, List.append_assoc]; rfl, flag⟩

end Scan

section Between

variable {between : Bytes} (free : ∀ c ∈ between, isDelimiter c = false)

include free

theorem readValue_between (behind : Bytes) : ∃ lastC, readValue (between ++ behind) =
    let s := behind.foldl Scan.step
      ⟨.start, lastC, if chr ':' ∈ between then 1 else 0, bareText between⟩
    if s.objFlage ≠ 0 then [] else s.keyVal := by
  refine ⟨Scan.lookBack 0 between, ?_⟩
  rw [readValue, List.foldl_append, Scan.foldl_between 0 between free]

theorem readValue_bare {c : UInt8} (ends : c = chr ',' ∨ c = chr '}') (after : Bytes) :
    readValue (between ++ c :: after) = bareText between := by
  obtain ⟨lastC, read⟩ := readValue_between free (c :: after)
  have done (objFlage : Int) (keyVal : Bytes) :
      Scan.step ⟨.start, lastC, objFlage, keyVal⟩ c = ⟨.done, c, 0, keyVal⟩ := by
    rcases ends with rfl | rfl <;> rfl
  obtain ⟨value, flag⟩ := Scan.foldl_done ⟨.done, c, 0, bareText between⟩ rfl after
  rw [read, List.foldl_cons, done]
  simp only [flag, value, ne_eq, not_true_eq_false, if_false]

theorem readValue_quote (rest : Bytes) : readValue (between ++ quote :: rest) =
    let s := rest.foldl Scan.step
      ⟨.string, quote, if chr ':' ∈ between then 1 else 0, bareText between⟩
    if s.objFlage ≠ 0 then [] else s.keyVal := by
  obtain ⟨lastC, read⟩ := readValue_between free (quote :: rest)
  have opened (objFlage : Int) (keyVal : Bytes) :
      Scan.step ⟨.start, lastC, objFlage, keyVal⟩ quote = ⟨.string, quote, objFlage, keyVal⟩ := rfl
  rw [read, List.foldl_cons, opened]

/-- Behind the opening quote of a string. -/
theorem readValue_opened {text : Bytes} (unescaped : Scan.lookBack quote text ≠ chr '\\')
    (after : Bytes) : ∃ string rest, text ++ quote :: after = string ++ quote :: rest ∧
      readValue (between ++ quote :: (text ++ quote :: after)) = bareText between ++ string := by
  obtain ⟨string, rest, split, value, flag⟩ := Scan.foldl_quote quote
    (if chr ':' ∈ between then 1 else 0) (bareText between) text after unescaped
  refine ⟨string, rest, split, ?_⟩
  rw [readValue_quote free]
  simp only [flag, value, ne_eq, not_true_eq_false, if_false]

theorem readValue_braces {behind : Bytes} (opens : behind.head? = some (chr '{')) :
    readValue (between ++ behind) =
      ((closedAt 0 behind).map fun k => bareText between ++ behind.take k).getD [] := by
  obtain ⟨lastC, read⟩ := readValue_between free behind
  obtain ⟨inner, rfl⟩ : ∃ inner, behind = chr '{' :: inner := by
    cases behind with
    | nil => cases opens
    | cons c inner => exact ⟨inner, by rw [Option.some.inj opens]⟩
  have opened (objFlage : Int) (keyVal : Bytes) :
      Scan.step ⟨.start, lastC, objFlage, keyVal⟩ (chr '{') =
        ⟨.object, chr '{', 1, keyVal ++ [chr '{']⟩ := rfl
  have counted : closedAt 0 (chr '{' :: inner) = (closedAt 1 inner).map (· + 1) := rfl
  rw [read, List.foldl_cons, opened, counted]
  cases closed : closedAt 1 inner with
  | none =>
    rw [if_pos (Scan.foldl_object_open _ _ _ (by decide) closed)]
    rfl
  | some k =>
    obtain ⟨value, flag⟩ := Scan.foldl_object_closed (chr '{') 1
      (bareText between ++ [chr '{']) closed
    simp only [flag, value, ne_eq, not_true_eq_false, if_false]
    simp

end Between

/-- The part up to the first delimiter. -/
theorem exists_between {rest : Bytes} {c : UInt8} (member : c ∈ rest)
    (delimiter : isDelimiter c = true) : ∃ between d behind, rest = between ++ d :: behind ∧
      (∀ c ∈ between, isDelimiter c = false) ∧ isDelimiter d = true := by
  induction rest with
  | nil => cases member
  | cons first rest ih =>
    cases here : isDelimiter first with
    | true => exact ⟨[], first, rest, rfl, List.forall_mem_nil _, here⟩
    | false =>
      have later : c ∈ rest := by
        rcases List.mem_cons.mp member with rfl | later
        · cases here.symm.trans delimiter
        · exact later
      obtain ⟨between, d, behind, rfl, free, ends⟩ := ih later
      exact ⟨first :: between, d, behind, rfl, List.forall_mem_cons.mpr ⟨here, free⟩, ends⟩

theorem lookBack_plain {text : Bytes} (plain : ∀ c ∈ text, isPlain c = true) :
    Scan.lookBack quote text ≠ chr '\\' := by
  unfold Scan.lookBack
  cases last : text.getLast? with
  | none => exact (by decide : quote ≠ chr '\\')
  | some c =>
    have good := plain c (List.mem_of_getLast? last)
    simp only [isPlain, Bool.and_eq_true, decide_eq_true_eq] at good
    exact good.2

/-- A quote is followed by one that ends the string, if another quoted name comes later. -/
theorem exists_unescaped {lead name after between behind : Bytes}
    (led : lead.getLast? ≠ some (chr '\\')) (named : ∀ c ∈ name, isPlain c = true)
    (free : ∀ c ∈ between, isDelimiter c = false)
    (split : lead ++ (quoted name ++ after) = between ++ quote :: behind) :
    ∃ text rest, behind = text ++ quote :: rest ∧ Scan.lookBack quote text ≠ chr '\\' := by
  have whole : quoted name ++ after = quote :: (name ++ quote :: after) := by simp [quoted]
  rw [whole] at split
  rcases List.append_eq_append_iff.mp split with ⟨inner, rfl, same⟩ | ⟨inner, rfl, same⟩
  · cases inner with
    -- the quote is the one that opens the name
    | nil => exact ⟨name, after, (List.cons.inj same).2.symm, lookBack_plain named⟩
    | cons c inner =>
      have opening : c = quote := (List.cons.inj same).1.symm
      have other := free c (by simp)
      rw [opening] at other
      cases other
  · cases inner with
    | nil => exact ⟨name, after, (List.cons.inj same).2, lookBack_plain named⟩
    | cons c inner =>
      refine ⟨inner, name ++ quote :: after, (List.cons.inj same).2, ?_⟩
      unfold Scan.lookBack
      cases last : inner.getLast? with
      | none => exact (by decide : quote ≠ chr '\\')
      | some d =>
        rintro rfl
        exact led (by simp [List.getLast?_append, List.getLast?_cons, last])

/-- What is read from a brace on is the object that it opens, or nothing. -/
theorem valueAfter_braces {between behind : Bytes} (free : ∀ c ∈ between, isDelimiter c = false) :
    ValueAfter (readValue (between ++ chr '{' :: behind)) (between ++ chr '{' :: behind) := by
  rw [readValue_braces free rfl]
  cases closed : closedAt 0 (chr '{' :: behind) with
  | none => exact .unclosed free rfl closed rfl
  | some k =>
    have length : ((chr '{' :: behind).take k).length = k :=
      List.length_take_of_le (closedAt_le closed)
    have opens : ((chr '{' :: behind).take k).head? = some (chr '{') := by
      rw [List.head?_take, if_neg (closedAt_pos closed).ne']
      rfl
    have closes : Closes ((chr '{' :: behind).take k) := by
      have nonempty : (chr '{' :: behind).take k ≠ [] := by
        intro empty
        rw [empty] at opens
        cases opens
      apply (closedAt_append_iff 0 _ ((chr '{' :: behind).drop k) nonempty).mp
      rw [List.take_append_drop, length]
      exact closed
    have whole : ValueAfter (bareText between ++ (chr '{' :: behind).take k)
        (between ++ ((chr '{' :: behind).take k ++ (chr '{' :: behind).drop k)) :=
      .object free opens closes rfl
    rwa [List.take_append_drop] at whole

/-- If another quoted name comes later and no backslash stands before that, the text has what the
automaton reads. -/
theorem valueAfter_readValue {lead name after : Bytes} (led : lead.getLast? ≠ some (chr '\\'))
    (named : ∀ c ∈ name, isPlain c = true) :
    ValueAfter (readValue (lead ++ (quoted name ++ after))) (lead ++ (quoted name ++ after)) := by
  have member : quote ∈ lead ++ (quoted name ++ after) := by simp [quoted]
  obtain ⟨between, d, behind, split, free, delimiter⟩ := exists_between member (by decide)
  rw [split]
  simp only [isDelimiter, Bool.or_eq_true, decide_eq_true_eq] at delimiter
  rcases delimiter with ((rfl | rfl) | rfl) | rfl
  · obtain ⟨text, rest, rfl, unescaped⟩ := exists_unescaped led named free split
    obtain ⟨string, rest', ended, found⟩ := readValue_opened free unescaped rest
    have here : between ++ quote :: (text ++ quote :: rest) =
        between ++ (quoted string ++ rest') := by
      rw [ended]
      simp [quoted]
    rw [found, here]
    exact .string free rfl
  · exact valueAfter_braces free
  · exact .bare free (Or.inl rfl) (readValue_bare free (Or.inl rfl) behind).symm
  · exact .bare free (Or.inr rfl) (readValue_bare free (Or.inr rfl) behind).symm

/-- The automaton reads what the text has, if it has no quotes and backslashes. -/
theorem ValueAfter.readValue_eq {value rest : Bytes} (follows : ValueAfter value rest)
    (plain : ∀ c ∈ value, isPlain c = true) : readValue rest = value := by
  cases follows with
  | bare free ends same => rw [readValue_bare free ends, same]
  | @string between text after free same =>
    have own : ∀ c ∈ text, isPlain c = true := by
      intro c member
      exact plain c (same ▸ List.mem_append_right _ member)
    have whole : between ++ (quoted text ++ after) =
        between ++ (quote :: (text ++ quote :: after)) := by simp [quoted]
    have unescaped : quote ≠ chr '\\' := by decide
    obtain ⟨value, flag⟩ := Scan.foldl_string
      ⟨.string, quote, if chr ':' ∈ between then 1 else 0, bareText between⟩ rfl unescaped
      text after own
    rw [whole, readValue_quote free]
    simp only [flag, value, ne_eq, not_true_eq_false, if_false]
    exact same
  | @object between text after free opens closes same =>
    have nonempty : text ≠ [] := by
      rintro rfl
      cases opens
    have first : (text ++ after).head? = some (chr '{') := by
      rw [List.head?_append, opens]
      rfl
    rw [readValue_braces free first, (closedAt_append_iff 0 text after nonempty).mpr closes]
    simpa using same
  | unclosed free opens never same =>
    rw [readValue_braces free opens, never, same]
    rfl

/-- The automaton reads a value without quotes and backslashes exactly where the text has it,
if another quoted name comes later and no backslash stands before that. -/
theorem readValue_eq_iff {value lead name after : Bytes} (plain : ∀ c ∈ value, isPlain c = true)
    (led : lead.getLast? ≠ some (chr '\\')) (named : ∀ c ∈ name, isPlain c = true) :
    readValue (lead ++ (quoted name ++ after)) = value ↔
      ValueAfter value (lead ++ (quoted name ++ after)) := by
  constructor
  · rintro rfl
    exact valueAfter_readValue led named
  · intro follows
    exact follows.readValue_eq plain

end VllmRoute.Channel
