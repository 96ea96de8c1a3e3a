import Enhance.Value.Basic
import Enhance.Text.Utf8

/-!
# Checking the values of a document

A value is checked against what is expected at its place. All problems of a document are
reported, in the order of the expected fields and then in the order of the unexpected ones:
`Checked` is either the accepted value or the list of these issues.
-/

namespace Enhance

open Enhance.Text Enhance.Number

/-- What is wrong with a value. -/
inductive Problem where
  | missing
  | unknownField
  | keyNotText
  | notRecord (name : String)
  | notList
  | notText
  | undecodableText
  | tooShort (least : Nat)
  | notBytes
  | notBool
  | unreadableBool
  | notInt
  | unreadableInt
  | fractionalInt
  | notFinite
  | hugeInt
  | below (least : Int)
  | notPath
  | notChoice (choices : List String)
  | notTime
  | unreadableTime (reason : String)
  | timeOutOfRange (reason : String)
  | notFailure
  /-- The value breaks a rule of its own. -/
  | rule (message : String)
  deriving DecidableEq, Repr

namespace Problem

/-- The name of a kind of problem. -/
def kind : Problem → String
  | .missing => "missing"
  | .unknownField => "extra_forbidden"
  | .keyNotText => "invalid_key"
  | .notRecord _ => "model_type"
  | .notList => "list_type"
  | .notText => "string_type"
  | .undecodableText => "string_unicode"
  | .tooShort _ => "string_too_short"
  | .notBytes => "bytes_type"
  | .notBool => "bool_type"
  | .unreadableBool => "bool_parsing"
  | .notInt => "int_type"
  | .unreadableInt => "int_parsing"
  | .fractionalInt => "int_from_float"
  | .notFinite => "finite_number"
  | .hugeInt => "int_parsing_size"
  | .below _ => "greater_than_equal"
  | .notPath => "path_type"
  | .notChoice _ => "enum"
  | .notTime => "datetime_type"
  | .unreadableTime _ => "datetime_from_date_parsing"
  | .timeOutOfRange _ => "datetime_parsing"
  | .notFailure => "is_instance_of"
  | .rule _ => "value_error"

/-- Alternatives between quotes, the last two separated by a word. -/
def alternatives : List String → String
  | [] => ""
  | [choice] => s!"'{choice}'"
  | [first, second] => s!"'{first}' or '{second}'"
  | first :: rest => s!"'{first}', " ++ alternatives rest

/-- What is wrong, in words. -/
def message : Problem → String
  | .missing => "Field required"
  | .unknownField => "Extra inputs are not permitted"
  | .keyNotText => "Keys should be strings"
  | .notRecord name => s!"Input should be a valid dictionary or instance of {name}"
  | .notList => "Input should be a valid list"
  | .notText => "Input should be a valid string"
  | .undecodableText =>
    "Input should be a valid string, unable to parse raw data as a unicode string"
  | .tooShort least =>
    s!"String should have at least {least} character" ++ if least = 1 then "" else "s"
  | .notBytes => "Input should be a valid bytes"
  | .notBool => "Input should be a valid boolean"
  | .unreadableBool => "Input should be a valid boolean, unable to interpret input"
  | .notInt => "Input should be a valid integer"
  | .unreadableInt => "Input should be a valid integer, unable to parse string as an integer"
  | .fractionalInt => "Input should be a valid integer, got a number with a fractional part"
  | .notFinite => "Input should be a finite number"
  | .hugeInt => "Unable to parse input string as an integer, exceeded maximum size"
  | .below least => s!"Input should be greater than or equal to {least}"
  | .notPath => "Input is not a valid path for <class 'pathlib.Path'>"
  | .notChoice choices => "Input should be " ++ alternatives choices
  | .notTime => "Input should be a valid datetime"
  | .unreadableTime reason => "Input should be a valid datetime or date, " ++ reason
  | .timeOutOfRange reason => "Input should be a valid datetime, " ++ reason
  | .notFailure => "Input should be an instance of BaseException"
  | .rule message => "Value error, " ++ message

end Problem

/-- A problem and its place: the names and numbers that lead to the value. -/
structure Issue where
  place : List String
  problem : Problem
  deriving DecidableEq, Repr

/-- One line about an issue. -/
def Issue.line (issue : Issue) : String :=
  "  - " ++ ".".intercalate issue.place ++ ": " ++ issue.problem.message

/-- The text about all issues of a document. -/
def issuesText (issues : List Issue) : String :=
  "\n".intercalate ("Validation failed:" :: issues.map Issue.line)

/-- A checked value, or what is wrong with it. -/
inductive Checked (α : Type) where
  | accepted (value : α)
  | rejected (issues : List Issue)

namespace Checked

/-- Both values, or the issues of both. -/
def both {α β : Type} : Checked α → Checked β → Checked (α × β)
  | .accepted first, .accepted second => .accepted (first, second)
  | .accepted _, .rejected issues => .rejected issues
  | .rejected issues, .accepted _ => .rejected issues
  | .rejected first, .rejected second => .rejected (first ++ second)

/-- A function of the value. -/
def map {α β : Type} (f : α → β) : Checked α → Checked β
  | .accepted value => .accepted (f value)
  | .rejected issues => .rejected issues

/-- A further check of an accepted value. -/
def andThen {α β : Type} (next : α → Checked β) : Checked α → Checked β
  | .accepted value => next value
  | .rejected issues => .rejected issues

/-- The checked value at a place of a larger one. -/
def inside {α : Type} (step : String) : Checked α → Checked α
  | .accepted value => .accepted value
  | .rejected issues =>
    .rejected (issues.map fun issue => { issue with place := step :: issue.place })

/-- The value is refused for one problem. -/
def refused {α : Type} (problem : Problem) : Checked α :=
  .rejected [⟨[], problem⟩]

instance : Functor Checked where
  map := map

/-- Applying a checked function collects the issues of the function and of its argument. -/
instance : Seq Checked where
  seq function argument := (both function (argument ())).map fun pair => pair.1 pair.2

/-- The accepted value. -/
def value? {α : Type} : Checked α → Option α
  | .accepted value => some value
  | .rejected _ => none

@[simp] theorem map_accepted {α β : Type} (f : α → β) (value : α) :
    f <$> (accepted value : Checked α) = accepted (f value) := rfl

@[simp] theorem seq_accepted {α β : Type} (f : α → β) (value : α) :
    (accepted f : Checked (α → β)) <*> accepted value = accepted (f value) := rfl

end Checked

namespace Value

/-- The text of a key as part of a place. -/
def keyText : Value → String
  | .null => "None"
  | .bool true => "1"
  | .bool false => "0"
  | .int value => s!"{value}"
  | .float value => floatText Json.shownSpelling value
  | .text value => value
  | .bytes value => quotedBytes value
  | .date value => value.shown
  | .time value => value.shown
  | other => other.kind

/-- The text of a value that is one or whose bytes encode one. Halves of characters are refused. -/
def textOf : Value → Checked String
  | .text value => .accepted value
  | .bytes value =>
    match decodeUtf8 value with
    | .ok value => .accepted value
    | .error _ => .refused .undecodableText
  | .raw _ => .refused .undecodableText
  | _ => .refused .notText

/-- A text with at least so many characters. -/
def textOfLength (least : Nat) (value : Value) : Checked String :=
  value.textOf.andThen fun words =>
    if words.length < least then .refused (.tooShort least) else .accepted words

/-- The bytes of a value that are such or encode a text. -/
def bytesOf : Value → Checked (List UInt8)
  | .bytes value => .accepted value
  | .text value => .accepted (encodeUtf8 value)
  | .raw _ => .refused .undecodableText
  | _ => .refused .notBytes

/-- What a value is or null stands for. -/
def optional {α : Type} (check : Value → Checked α) : Value → Checked (Option α)
  | .null => .accepted none
  | value => (check value).map some

/-- The words for a truth value; the case of their letters does not matter. -/
def boolOfText? (words : String) : Option Bool :=
  let lower := words.map Char.toLower
  if ["1", "t", "y", "on", "yes", "true"].contains lower then some true
  else if ["0", "f", "n", "no", "off", "false"].contains lower then some false
  else none

/-- A truth value, given as such, as a number or as a word. -/
def boolOf : Value → Checked Bool
  | .bool value => .accepted value
  | .text value => ofWord value
  | .bytes value =>
    match decodeUtf8 value with
    | .ok value => ofWord value
    | .error _ => .refused .unreadableBool
  | .raw _ => .refused .undecodableText
  | .int 0 => .accepted false
  | .int 1 => .accepted true
  | .int value =>
    if value.natAbs < 0x8000000000000000 then .refused .unreadableBool else .refused .notBool
  | .float value =>
    if value == 0.0 then .accepted false
    else if value == 1.0 then .accepted true
    else if isWhole value && value.abs < 9223372036854775808.0 then .refused .unreadableBool
    else .refused .notBool
  | _ => .refused .notBool
where
  ofWord (words : String) : Checked Bool :=
    match boolOfText? words with
    | some value => .accepted value
    | none => .refused .unreadableBool

/-- The integer that a text writes: a sign, digits with single underscores between them, and
perhaps a fraction of zeros. -/
def intOfText? (words : String) : Option Int :=
  let trimmed := words.toList.dropWhile Char.isWhitespace
  let trimmed := (trimmed.reverse.dropWhile Char.isWhitespace).reverse
  let (negative, digits) := match trimmed with
    | '-' :: rest => (true, rest)
    | '+' :: rest => (false, rest)
    | _ => (false, trimmed)
  let whole := digits.takeWhile (· != '.')
  let fraction := digits.drop (whole.length + 1)
  let parts := pieces '_' whole
  if parts.all (fun part => part ≠ [] && part.all Char.isDigit) && fraction.all (· = '0') then
    let value : Int := valueOfDigits parts.flatten
    some (if negative then -value else value)
  else none

/-- An integer, given as such or as a number or text that stands for one. -/
def intOf : Value → Checked Int
  | .bool value => .accepted (if value then 1 else 0)
  | .int value => .accepted value
  | .float value =>
    if !value.isFinite then .refused .notFinite
    else if !isWhole value then .refused .fractionalInt
    else if value.abs < 9223372036854775808.0 then .accepted (truncated value)
    else .refused .hugeInt
  | .text value =>
    match intOfText? value with
    | some value => .accepted value
    | none => .refused .unreadableInt
  | .bytes value =>
    match (decodeUtf8 value).toOption.bind intOfText? with
    | some value => .accepted value
    | none => .refused .unreadableInt
  | .raw _ => .refused .undecodableText
  | _ => .refused .notInt

/-- A path, given as its text. -/
def pathOf : Value → Checked Path
  | .text value => .accepted (Path.ofString value)
  | _ => .refused .notPath

/-- One of several named things. -/
def choiceOf {α : Type} (choices : List (String × α)) (value : Value) : Checked α :=
  match value.textOf with
  | .accepted words =>
    match choices.lookup words with
    | some choice => .accepted choice
    | none => .refused (.notChoice (choices.map (·.1)))
  | .rejected _ => .refused (.notChoice (choices.map (·.1)))

/-- A failure. -/
def failureOf : Value → Checked Failure
  | .failure value => .accepted value
  | _ => .refused .notFailure

/-- Items with a number each, from a first number on. -/
def checkItems {α : Type} (check : Value → Checked α) : Nat → List Value → Checked (List α)
  | _, [] => .accepted []
  | n, item :: items =>
    (Checked.both ((check item).inside s!"{n}") (checkItems check (n + 1) items)).map
      fun pair => pair.1 :: pair.2

/-- A list of values. -/
def listOf {α : Type} (check : Value → Checked α) : Value → Checked (List α)
  | .list items | .row items | .set items => checkItems check 0 items
  | _ => .refused .notList

/-- The issue that an entry is, if its key is no known name. -/
def strayEntry? (known : List String) : (key : Value) → Option Issue
  | .text name => if known.contains name then none else some ⟨[name], .unknownField⟩
  | key => some ⟨[key.keyText], .keyNotText⟩

/-- A mapping with no other keys than the known names. The check of the fields comes before
the report of what is not known. -/
def recordOf {α : Type} (name : String) (known : List String)
    (check : List (Value × Value) → Checked α) : Value → Checked α
  | .mapping entries =>
    let stray := entries.filterMap fun entry => strayEntry? known entry.1
    (Checked.both (check entries)
      (if stray = [] then .accepted () else .rejected stray)).map (·.1)
  | _ => .refused (.notRecord name)

/-- The value of a field that has to be there. -/
def required {α : Type} (name : String) (check : Value → Checked α)
    (entries : List (Value × Value)) : Checked α :=
  match field? name entries with
  | some value => (check value).inside name
  | none => Checked.inside name (.refused .missing)

/-- The value of a field that may be left out. -/
def defaulting {α : Type} (name : String) (absent : α) (check : Value → Checked α)
    (entries : List (Value × Value)) : Checked α :=
  match field? name entries with
  | some value => (check value).inside name
  | none => .accepted absent

end Value

end Enhance
