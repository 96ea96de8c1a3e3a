/-!
# The tags of scalars

A plain scalar without a tag has the tag of the first class of texts that it belongs to, and is
a text if it belongs to none. A line feed at the end of the text does not count.
-/

namespace Enhance.Yaml.Tag

/-- The full name of a tag of the common kinds. -/
def common (name : String) : String :=
  "tag:yaml.org,2002:" ++ name

/-- The words for true and false. -/
def boolOf? : String → Option Bool
  | "yes" | "true" | "on" => some true
  | "no" | "false" | "off" => some false
  | _ => none

/-- Whether a word is written in small letters, in capitals or with one capital in front. -/
def isOneCase (word : List Char) : Bool :=
  match word with
  | [] => true
  | _ :: rest => word.all Char.isLower || word.all Char.isUpper || rest.all Char.isLower

/-- The words for true and false in one of three cases. -/
def isBool (text : List Char) : Bool :=
  isOneCase text && (boolOf? (String.ofList (text.map Char.toLower))).isSome

/-- Whether a text has at least one character and all are of a class. -/
def isRun (p : Char → Bool) (text : List Char) : Bool :=
  !text.isEmpty && text.all p

/-- A digit or an underscore. -/
def isDigitOrGap (c : Char) : Bool :=
  c.isDigit || c = '_'

/-- A digit followed by digits and underscores. -/
def isNumeral (text : List Char) : Bool :=
  match text with
  | [] => false
  | c :: rest => c.isDigit && rest.all isDigitOrGap

/-- A text without a sign in front. -/
def unsigned (text : List Char) : List Char :=
  match text with
  | '+' :: rest | '-' :: rest => rest
  | _ => text

/-- The pieces of a text between colons. -/
def clockParts (text : List Char) : List (List Char) :=
  text.splitOn ':'

/-- A number below sixty of one or two digits. -/
def isSixtieth (text : List Char) : Bool :=
  match text with
  | [c] => c.isDigit
  | [c, d] => '0' ≤ c && c ≤ '5' && d.isDigit
  | _ => false

/-- A whole number: binary, octal, decimal, hexadecimal or with sixty as its base. -/
def isInt (text : List Char) : Bool :=
  match unsigned text with
  | '0' :: 'b' :: rest => isRun (fun c => c = '0' || c = '1' || c = '_') rest
  | '0' :: 'x' :: rest =>
    isRun (fun c => c.isDigit || ('a' ≤ c && c ≤ 'f') || ('A' ≤ c && c ≤ 'F') || c = '_') rest
  | '0' :: rest => rest.all fun c => ('0' ≤ c && c ≤ '7') || c = '_'
  | text =>
    match clockParts text with
    | [] => false
    | first :: more => isNumeral first && more.all isSixtieth

/-- An exponent with its sign, or nothing. -/
def isExponent (text : List Char) : Bool :=
  match text with
  | [] => true
  | e :: sign :: digits => (e = 'e' || e = 'E') && (sign = '+' || sign = '-') &&
      isRun Char.isDigit digits
  | _ => false

/-- Digits and underscores, and then an exponent or nothing. -/
def isFraction (text : List Char) : Bool :=
  isExponent (text.dropWhile isDigitOrGap)

/-- A number with a point. -/
def isFloat (text : List Char) : Bool :=
  let bare := unsigned text
  let whole := bare.takeWhile (· ≠ '.')
  match bare.dropWhile (· ≠ '.') with
  | '.' :: rest =>
    match clockParts whole with
    | [] => false
    | [_] =>
      (isNumeral whole && isFraction rest) ||
        (whole = [] && (String.ofList rest = "inf" || String.ofList rest = "Inf" ||
          String.ofList rest = "INF")) ||
        (text = '.' :: rest && (String.ofList rest = "nan" || String.ofList rest = "NaN" ||
          String.ofList rest = "NAN" || (isNumeral (rest.take 1) && isFraction rest)))
    | first :: more => isNumeral first && more.all isSixtieth && rest.all isDigitOrGap
  | _ => false

/-- The words for nothing. -/
def isNull (text : List Char) : Bool :=
  text = [] || text = ['~'] ||
    (isOneCase text && String.ofList (text.map Char.toLower) = "null")

/-- The parts of a point in time, as they are written. -/
structure TimeText where
  year : List Char
  month : List Char
  day : List Char
  /-- Hour, minute, second and fraction. -/
  clock : Option (List Char × List Char × List Char × List Char) := none
  /-- The sign, the hours and the minutes of the offset; no sign for that of Greenwich. -/
  offset : Option (Option (Char × List Char × List Char)) := none
  deriving DecidableEq, Repr

/-- Splits at most `most` digits off a text. -/
def splitDigits (most : Nat) (text : List Char) : List Char × List Char :=
  let digits := (text.take most).takeWhile Char.isDigit
  (digits, text.drop digits.length)

/-- The offset at the end of a point in time. -/
def offsetText? (text : List Char) : Option (Option (Option (Char × List Char × List Char))) :=
  match text.dropWhile fun c => c = ' ' || c = '\t' with
  | [] => if text = [] then some none else none
  | ['Z'] => some (some none)
  | sign :: rest =>
    if sign ≠ '+' && sign ≠ '-' then none
    else
      let (hours, rest) := splitDigits 2 rest
      if hours = [] then none
      else
        match rest with
        | [] => some (some (some (sign, hours, [])))
        | [':', c, d] =>
          if c.isDigit && d.isDigit then some (some (some (sign, hours, [c, d]))) else none
        | _ => none

/-- The clock of a point in time and what follows it. -/
def clockText? (text : List Char) : Option ((List Char × List Char × List Char × List Char) ×
    List Char) :=
  let (hour, rest) := splitDigits 2 text
  match rest with
  | ':' :: a :: b :: ':' :: c :: d :: rest =>
    if hour ≠ [] && a.isDigit && b.isDigit && c.isDigit && d.isDigit then
      match rest with
      | '.' :: rest =>
        some ((hour, [a, b], [c, d], rest.takeWhile Char.isDigit), rest.dropWhile Char.isDigit)
      | rest => some ((hour, [a, b], [c, d], []), rest)
    else none
  | _ => none

/-- The parts of a day or a point in time. Months and days may be written with one digit. -/
def timeText? (text : List Char) : Option TimeText :=
  let (year, rest) := splitDigits 4 text
  match rest with
  | '-' :: rest =>
    let (month, rest) := splitDigits 2 rest
    match rest with
    | '-' :: rest =>
      let (day, rest) := splitDigits 2 rest
      if year.length ≠ 4 || month = [] || day = [] then none
      else
        match rest with
        | [] => some { year, month, day }
        | c :: more =>
          let behind := if c = 'T' || c = 't' then some more
            else if c = ' ' || c = '\t' then some (more.dropWhile fun c => c = ' ' || c = '\t')
            else none
          match behind.bind clockText? with
          | none => none
          | some (clock, rest) =>
            (offsetText? rest).map fun offset =>
              { year, month, day, clock := some clock, offset }
    | _ => none
  | _ => none

/-- A day or a point in time. A day alone has two digits for its month and its own number. -/
def isTime (text : List Char) : Bool :=
  match timeText? text with
  | none => false
  | some time => time.clock.isSome || (time.month.length = 2 && time.day.length = 2)

/-- The tag of a plain scalar. -/
def ofPlain (text : String) : String :=
  let chars := text.toList
  let chars := if chars.length > 1 && chars.getLast? = some '\n' then chars.dropLast else chars
  common <|
    if isBool chars then "bool"
    else if isFloat chars then "float"
    else if isInt chars then "int"
    else if chars = ['<', '<'] then "merge"
    else if isNull chars then "null"
    else if isTime chars then "timestamp"
    else if chars = ['='] then "value"
    else if chars = ['!'] || chars = ['&'] || chars = ['*'] then "yaml"
    else "str"

end Enhance.Yaml.Tag
