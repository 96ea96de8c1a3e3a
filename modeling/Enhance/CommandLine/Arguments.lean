import Enhance.Text.Quoted
import Enhance.Text.Similarity
import Enhance.World

/-!
# Reading arguments

The options of a command are given by long names, which may have a value behind an equals sign,
or by letters, several of which may stand behind one dash. A value may also be the next argument.
Two dashes alone end the options. What is no option is an argument of the command itself.
-/

namespace Enhance.CommandLine

open Enhance.Text

/-- What is wrong with the use of a command. -/
inductive UsageError where
  | unknownOption (name : String) (similar : List String)
  | unknownCommand (name : String) (similar : List String)
  | noValueTaken (name : String)
  | valueMissing (name : String)
  /-- A value does not suit its option, which has these names. -/
  | unsuitable (names : List String) (problem : String)
  | extraArguments (arguments : List String)
  | commandMissing
  deriving DecidableEq, Repr

namespace UsageError

/-- The code for a command that is not used as it should be. -/
def exitCode : Nat := 2

/-- The class of the error. -/
def kind : UsageError → String
  | .unknownOption .. => "NoSuchOption"
  | .unknownCommand .. => "NoSuchCommand"
  | .noValueTaken _ | .valueMissing _ => "BadOptionUsage"
  | .unsuitable .. => "BadParameter"
  | .extraArguments _ | .commandMissing => "UsageError"

/-- A hint at names that may have been meant. -/
def hint : List String → String
  | [] => ""
  | [name] => s!" Did you mean {quoted name}?"
  | names =>
    " (Did you mean one of: " ++ ", ".intercalate ((names.mergeSort (· ≤ ·)).map quoted) ++ "?)"

/-- What is wrong. -/
def message : UsageError → String
  | .unknownOption name similar => s!"No such option {quoted name}." ++ hint similar
  | .unknownCommand name similar => s!"No such command {quoted name}." ++ hint similar
  | .noValueTaken name => s!"Option {quoted name} does not take a value."
  | .valueMissing name => s!"Option {quoted name} requires an argument."
  | .unsuitable names problem =>
    let names := names.map fun name => s!"'{name}'"
    "Invalid value for " ++ " / ".intercalate names ++ ": " ++ problem
  | .extraArguments arguments =>
    let noun := if arguments.length = 1 then "argument" else "arguments"
    s!"Got unexpected extra {noun} (" ++ " ".intercalate arguments ++ ")"
  | .commandMissing => "Missing command."

end UsageError

/-- What a value has to be. -/
inductive Suitability where
  | anything
  /-- A path at which there is no directory. -/
  | file
  /-- A path at which there is no file. -/
  | directory
  | oneOf (choices : List String) (ignoringCase : Bool)
  deriving DecidableEq, Repr

/-- An option of a command. -/
structure OptionSpec where
  names : List String
  /-- The names that switch it off. -/
  offNames : List String := []
  takesValue : Bool := false
  suitability : Suitability := .anything
  /-- The value if none is given. -/
  usual : Option String := none
  deriving DecidableEq, Repr

/-- An option that was given. -/
structure Given where
  option : OptionSpec
  value : Option String := none
  isOff : Bool := false
  deriving DecidableEq, Repr

/-- The option with a name, and whether the name switches it off. -/
def optionNamed? (options : List OptionSpec) (name : String) : Option (OptionSpec × Bool) :=
  options.findSome? fun option =>
    if option.names.contains name then some (option, false)
    else if option.offNames.contains name then some (option, true)
    else none

/-- All long names of options. -/
def longNames (options : List OptionSpec) : List String :=
  (options.flatMap fun option => option.names ++ option.offNames).filter fun name =>
    2 < name.length

/-- Splits the value behind an equals sign off an argument. -/
def splitValue (argument : String) : String × Option String :=
  let chars := argument.toList
  let name := chars.takeWhile (· ≠ '=')
  match chars.drop name.length with
  | [] => (argument, none)
  | _ :: value => (String.ofList name, some (String.ofList value))

/-- The options that an argument gives, and whether the next argument is a value. -/
abbrev Reading := Except UsageError (List Given × Bool)

/-- An option by a name, perhaps with a value behind it. -/
def readNamed (option : OptionSpec) (isOff : Bool) (name : String) (value next : Option String) :
    Reading :=
  if option.takesValue then
    match value, next with
    | some value, _ => .ok ([{ option, value := some value, isOff }], false)
    | none, some next => .ok ([{ option, value := some next, isOff }], true)
    | none, none => .error (.valueMissing name)
  else if value.isSome then .error (.noValueTaken name)
  else .ok ([{ option, isOff }], false)

/-- The letters behind one dash. The rest of the letters is the value of an option that takes
one. -/
def readLetters (options : List OptionSpec) (next : Option String) : List Char → Reading
  | [] => .ok ([], false)
  | letter :: more => do
    let name := String.ofList ['-', letter]
    match optionNamed? options name with
    | none => throw (.unknownOption name [])
    | some (option, isOff) =>
      if option.takesValue then
        readNamed option isOff name (if more = [] then none else some (String.ofList more)) next
      else
        let (given, takesNext) ← readLetters options next more
        return ({ option, isOff } :: given, takesNext)

/-- An argument that starts with a dash. -/
def readOption (options : List OptionSpec) (argument : String) (next : Option String) : Reading :=
  let (name, value) := splitValue argument
  match if 2 < name.length then optionNamed? options name else none with
  | some (option, isOff) => readNamed option isOff name value next
  | none =>
    if argument.toList.take 2 = ['-', '-'] then
      .error (.unknownOption name (similarNames name (longNames options)))
    else readLetters options next (argument.toList.drop 1)

/-- Whether an argument gives options. -/
def givesOptions (argument : String) : Bool :=
  argument.toList.head? = some '-' && 1 < argument.length

/-- The options that arguments give, in order, and the arguments that are left. With `first` the
options end at the first argument that is none. -/
def readArguments (options : List OptionSpec) (first : Bool) :
    List String → Except UsageError (List Given × List String)
  | [] => .ok ([], [])
  | argument :: rest =>
    if argument = "--" then .ok ([], rest)
    else if givesOptions argument then
      match readOption options argument rest.head? with
      | .error error => .error error
      | .ok (given, takesNext) =>
        match takesNext, rest with
        | true, _ :: rest =>
          (readArguments options first rest).map fun (more, left) => (given ++ more, left)
        | _, rest =>
          (readArguments options first rest).map fun (more, left) => (given ++ more, left)
    else if first then .ok ([], argument :: rest)
    else (readArguments options first rest).map fun (given, left) => (given, argument :: left)

/-! ## Values -/

/-- The values of the last option of a name that was given. -/
def lastGiven? (given : List Given) (name : String) : Option Given :=
  (given.filter fun one => one.option.names.contains name).getLast?

/-- The value of an option, if one is given. -/
def valueOf? (given : List Given) (name : String) : Option String :=
  (lastGiven? given name).bind (·.value)

/-- All values of an option, in order. -/
def valuesOf (given : List Given) (name : String) : List String :=
  (given.filter fun one => one.option.names.contains name).filterMap (·.value)

/-- Whether a flag was given. -/
def isGiven (given : List Given) (name : String) : Bool :=
  (lastGiven? given name).isSome

/-- What is at a path as it is written; nothing if it has no characters, or if it ends like a
directory and is none. -/
def nodeAt (path : String) : Program (Option Node) := do
  let place := Path.ofString path
  if Disk.hasNul place then throw .embeddedNul
  let world ← get
  let endsLikeDirectory := path.endsWith "/" || path.endsWith "/."
  match Disk.stat world.disk world.cwd place with
  | .error _ => return none
  | .ok node => return if path = "" || (endsLikeDirectory && !node.isDir) then none else some node

/-- What is wrong with a value, if it does not suit. -/
def problemWith (suitability : Suitability) (value : String) : Program (Option String) := do
  match suitability with
  | .anything => return none
  | .file =>
    match ← nodeAt value with
    | some (.dir _) => return some s!"File {quoted value} is a directory."
    | _ => return none
  | .directory =>
    match ← nodeAt value with
    | some (.file _) => return some s!"Directory {quoted value} is a file."
    | _ => return none
  | .oneOf choices ignoringCase =>
    let plain (word : String) : String := if ignoringCase then word.toLower else word
    if (choices.map plain).contains (plain value) then return none
    else return some (s!"{quoted value} is not one of " ++
      ", ".intercalate (choices.map fun choice => quoted (plain choice)) ++ ".")

/-- The options of a command in the order in which their values are looked at: first those that
were given. -/
def inOrder (options : List OptionSpec) (given : List Given) : List OptionSpec :=
  ((given.map (·.option)) ++ options).eraseDups

/-- The first value that does not suit its option. -/
def firstUnsuitable (given : List Given) : List OptionSpec → Program (Option UsageError)
  | [] => pure none
  | option :: options => do
    let value := (valueOf? given (option.names.headD "")).or option.usual
    match value with
    | none => firstUnsuitable given options
    | some value =>
      match ← problemWith option.suitability value with
      | some problem => return some (.unsuitable option.names problem)
      | none => firstUnsuitable given options

/-- The options that arguments give to a command that takes no other arguments. -/
def readCommand (options : List OptionSpec) (arguments : List String) :
    Program (Except UsageError (List Given)) := do
  match readArguments options false arguments with
  | .error error => return .error error
  | .ok (given, left) =>
    match ← firstUnsuitable given (inOrder options given) with
    | some error => return .error error
    | none => return if left = [] then .ok given else .error (.extraArguments left)

end Enhance.CommandLine
