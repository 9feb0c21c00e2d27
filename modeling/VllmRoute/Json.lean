import VllmRoute.Base

/-!
# JSON values and the accessors of the scheduler

The value type of `nlohmann::json` and the helpers of `main.cpp` that read a
member with a default. An object is the association list of its members.
-/
namespace VllmRoute

inductive Json where
  | null
  | bool (b : Bool)
  | int (n : Int)
  | float (x : Float)
  | str (s : String)
  | arr (items : List Json)
  | obj (members : List (String × Json))

namespace Json

/-- `contains` and `at` together: the member of that name, on objects only. -/
def get? : Json → String → Option Json
  | .obj members, key => members.lookup key
  | _, _ => none

def contains (body : Json) (key : String) : Bool := (body.get? key).isSome

def isObject : Json → Bool
  | .obj _ => true
  | _ => false

end Json

def parseBoolString (val : String) (defaultValue : Bool) : Bool :=
  if val ∈ ["1", "true", "TRUE", "on", "ON"] then true
  else if val ∈ ["0", "false", "FALSE", "off", "OFF"] then false
  else defaultValue

def jsonBoolValue (body : Json) (key : String) (defaultValue : Bool) : Bool :=
  match body.get? key with
  | some (.bool b) => b
  | some (.int n) => toInt32 n != 0
  | some (.str s) => parseBoolString s defaultValue
  | _ => defaultValue

def jsonIntValue (body : Json) (key : String) (defaultValue : Int) : Int :=
  match body.get? key with
  | some (.int n) => toInt32 n
  | some (.str s) => (stoi (lit s)).getD defaultValue
  | _ => defaultValue

/-- The number that `json_int_value` finds, if there is one. -/
def jsonInt? (body : Json) (key : String) : Option Int :=
  match body.get? key with
  | some (.int n) => some (toInt32 n)
  | some (.str s) => stoi (lit s)
  | _ => none

theorem jsonIntValue_eq (body : Json) (key : String) (defaultValue : Int) :
    jsonIntValue body key defaultValue = (jsonInt? body key).getD defaultValue := by
  unfold jsonIntValue jsonInt?
  cases body.get? key with
  | none => rfl
  | some value => cases value <;> rfl

/-- What stays in range when it is read once more with itself for the default. -/
theorem jsonIntValue_again (body : Json) (key : String) (low defaultValue : Int) :
    max low (jsonIntValue body key (max low (jsonIntValue body key defaultValue))) =
      max low (jsonIntValue body key defaultValue) := by
  rw [jsonIntValue_eq, jsonIntValue_eq]
  cases jsonInt? body key with
  | none =>
    simp only [Option.getD_none]
    omega
  | some n => rfl

theorem jsonBoolValue_again (body : Json) (key : String) (defaultValue : Bool) :
    jsonBoolValue body key (jsonBoolValue body key defaultValue) =
      jsonBoolValue body key defaultValue := by
  unfold jsonBoolValue
  cases body.get? key with
  | none => rfl
  | some value =>
    cases value with
    | str s =>
      by_cases on : s ∈ ["1", "true", "TRUE", "on", "ON"]
      · simp only [parseBoolString, if_pos on]
      · by_cases off : s ∈ ["0", "false", "FALSE", "off", "OFF"]
        · simp only [parseBoolString, if_neg on, if_pos off]
        · simp only [parseBoolString, if_neg on, if_neg off]
    | _ => rfl

def jsonStringValue (body : Json) (key : String) (defaultValue : String) : String :=
  match body.get? key with
  | some (.str s) => s
  | _ => defaultValue

theorem jsonStringValue_again (body : Json) (key defaultValue : String) :
    jsonStringValue body key (jsonStringValue body key defaultValue) =
      jsonStringValue body key defaultValue := by
  unfold jsonStringValue
  cases body.get? key with
  | none => rfl
  | some value => cases value <;> rfl

def jsonStringArrayValue (body : Json) (key : String) : List String :=
  match body.get? key with
  | some (.str s) => [s]
  | some (.arr items) => items.filterMap fun item =>
      match item with
      | .str s => some s
      | _ => none
  | _ => []

/-- `trim_right_slash` -/
def trimRightSlash (value : String) : String :=
  String.ofList (value.toList.reverse.dropWhile (· = '/')).reverse

example : trimRightSlash "http://a//" = "http://a" := by decide

theorem trimRightSlash_idem (value : String) :
    trimRightSlash (trimRightSlash value) = trimRightSlash value := by
  have again (text : List Char) :
      (text.dropWhile (· = '/')).dropWhile (· = '/') = text.dropWhile (· = '/') := by
    induction text with
    | nil => rfl
    | cons c text ih =>
      rw [List.dropWhile_cons]
      split
      · exact ih
      next other => rw [List.dropWhile_cons, if_neg other]
  simp only [trimRightSlash, String.toList_ofList, List.reverse_reverse, again]

end VllmRoute
