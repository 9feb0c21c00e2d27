import VllmRoute.Channel.Text

/-!
# Exact extraction

When `sample_json_str_get` returns the text of a member: for a string, unless
the string ends in a backslash; for an object, if its braces are balanced with
those inside of its strings.
-/
namespace VllmRoute.Channel

open Lib

/-- What stands behind the name of a member, if the search stops there. -/
theorem sampleJsonStrGet_member {pre post : List (List Piece × Bytes)} {name : List Piece}
    {value : Bytes} (first : find (quoted (bodyText name))
      (objectText (pre ++ (name, value) :: post)) = some (opening pre).length) :
    sampleJsonStrGet (objectText (pre ++ (name, value) :: post)) (bodyText name) =
      readValue ([] ++ chr ':' :: ([chr ' '] ++ (value ++ closing post))) := by
  unfold sampleJsonStrGet
  simp only [first]
  rw [objectText_split, ← List.drop_drop, List.drop_left, List.drop_left]
  rfl

theorem string_member_iff {pre post : List (List Piece × Bytes)} {name body : List Piece}
    (first : find (quoted (bodyText name))
      (objectText (pre ++ (name, quoted (bodyText body)) :: post)) = some (opening pre).length) :
    sampleJsonStrGet (objectText (pre ++ (name, quoted (bodyText body)) :: post))
        (bodyText name) = bodyText body ↔
      (bodyText body).getLast? ≠ some (chr '\\') := by
  rw [sampleJsonStrGet_member first]
  have spaces : withoutSpaces [chr ' '] = [] := by decide
  constructor
  · intro exact last
    -- the closing quote is kept, and the text that is read gets longer
    rcases readValue_backslash [] [chr ' '] (closing post) body blank_nil blank_space last with
      none | longer
    · rw [none] at exact
      rw [← exact] at last
      cases last
    · rw [exact, spaces] at longer
      have length := longer.length_le
      simp only [List.nil_append, List.length_append, List.length_singleton] at length
      omega
  · intro last
    rw [readValue_string [] [chr ' '] (closing post) body blank_nil blank_space last, spaces]
    rfl

theorem object_member_iff {pre post members : List (List Piece × Bytes)} {name : List Piece}
    (first : find (quoted (bodyText name))
      (objectText (pre ++ (name, objectText members) :: post)) = some (opening pre).length) :
    sampleJsonStrGet (objectText (pre ++ (name, objectText members) :: post))
        (bodyText name) = objectText members ↔ Closes (objectText members) := by
  rw [sampleJsonStrGet_member first,
    readValue_object [] [chr ' '] (objectText members ++ closing post) blank_nil blank_space rfl]
  have nonempty : objectText members ≠ [] := List.cons_ne_nil _ _
  rw [Closes, ← closedAt_append_iff 0 _ (closing post) nonempty]
  have spaces : withoutSpaces [chr ' '] = [] := by decide
  rw [spaces]
  constructor
  · intro exact
    cases closed : closedAt 0 (objectText members ++ closing post) with
    | none =>
      rw [closed] at exact
      exact absurd exact.symm nonempty
    | some k =>
      rw [closed] at exact
      have inside := closedAt_le closed
      have length := congrArg List.length exact
      simp only [Option.map_some, Option.getD_some, List.nil_append, List.length_take] at length
      congr 1
      omega
  · intro closed
    rw [closed]
    simp

/-- For every text of an object on one line and every member of it at which the search for its
name stops: a string is returned as it is written, if and only if it does not end in a
backslash; an object is returned, if and only if its braces are balanced at its end and not
before, all of them counted; and this is so when no brace stands in a string. -/
theorem member_read_exactly_iff (pre post : List (List Piece × Bytes)) (name : List Piece)
    (value : Bytes) (first : find (quoted (bodyText name))
      (objectText (pre ++ (name, value) :: post)) = some (opening pre).length) :
    (∀ body, value = quoted (bodyText body) →
      (sampleJsonStrGet (objectText (pre ++ (name, value) :: post)) (bodyText name) =
        bodyText body ↔ (bodyText body).getLast? ≠ some (chr '\\'))) ∧
    ∀ members, value = objectText members →
      (sampleJsonStrGet (objectText (pre ++ (name, value) :: post)) (bodyText name) = value ↔
        Closes value) ∧
      ((∀ member ∈ members, BraceFree member.1 ∧ ValueText BraceFree member.2) →
        sampleJsonStrGet (objectText (pre ++ (name, value) :: post)) (bodyText name) = value) := by
  constructor
  · rintro body rfl
    exact string_member_iff first
  · rintro members rfl
    have exactly := object_member_iff first
    refine ⟨exactly, fun free => exactly.mpr ?_⟩
    apply closes_objectText
    · exact fun member listed => (free member listed).1
    · exact fun member listed => (free member listed).2

/-- A request with an object for its data. -/
theorem member_read_exactly_iff_delta :
    sampleJsonStrGet (lit "\x7b\"action\": \"inference\", \"data\": \x7b\"delta\": \"hi\"\x7d\x7d")
      (lit "data") = lit "\x7b\"delta\": \"hi\"\x7d" := by
  have text : lit "\x7b\"action\": \"inference\", \"data\": \x7b\"delta\": \"hi\"\x7d\x7d" =
      objectText ([(written (lit "action"), quoted (lit "inference"))] ++
        (written (lit "data"), objectText [(written (lit "delta"), quoted (lit "hi"))]) :: []) := by
    decide +kernel
  have name : lit "data" = bodyText (written (lit "data")) := by decide +kernel
  have value : lit "\x7b\"delta\": \"hi\"\x7d" =
      objectText [(written (lit "delta"), quoted (lit "hi"))] := by decide +kernel
  rw [text, name, value]
  exact ((member_read_exactly_iff _ _ _ _ (by decide +kernel)).2 _ rfl).1.mpr (by decide +kernel)

/-- A string that ends in an escaped backslash is lost, and an object with a brace in a string is
cut at that brace. -/
theorem member_not_read_exactly :
    sampleJsonStrGet (objectText [(written (lit "data"),
        quoted (bodyText (written (lit "a") ++ [.escape .backslash])))]) (lit "data") = [] ∧
    sampleJsonStrGet (objectText [(written (lit "data"),
        objectText [(written (lit "a"), quoted (lit "\x7d"))])]) (lit "data") =
      lit "\x7b\"a\": \"\x7d" ∧
    objectText [(written (lit "data"), objectText [(written (lit "a"), quoted (lit "\x7d"))])] =
      lit "\x7b\"data\": \x7b\"a\": \"\x7d\"\x7d\x7d" := by
  decide +kernel

end VllmRoute.Channel
