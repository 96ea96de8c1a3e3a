import Enhance.Path.Text
import Enhance.Proofs.Json.RoundTrip

/-!
# What the JSON of a report tells

The text of a value is made of printable ASCII characters, and in the indented layout of line feeds, too
(`Json.FloatFree.all_admits_render`).  A digest is what can be read off the JSON of a report: all but the
times and the lists of which only the lengths are printed.  Either text of a report is read as one value,
and the digest of the report is read off it (`Report.jsonText_tells`).
-/

namespace Enhance

open Text

namespace Json

/-! ## The characters of printed values -/

/-- Whether ASCII prints a character. -/
def isPrintable (c : Char) : Bool :=
  0x20 ≤ c.toNat && c.toNat < 0x7f

/-- Whether a printed value may hold a character: only the indented layout breaks lines. -/
def Style.admits (style : Style) (c : Char) : Bool :=
  isPrintable c || (style = .indented && c = '\n')

/-- Nothing but ASCII is printed. -/
theorem Style.isAscii_of_admits {style : Style} {c : Char} (admitted : style.admits c = true) :
    c.toNat < 0x80 := by
  simp only [admits, isPrintable, Bool.or_eq_true, Bool.and_eq_true, decide_eq_true_eq] at admitted
  rcases admitted with ⟨-, small⟩ | ⟨-, rfl⟩
  · exact Nat.lt_succ_of_lt small
  · decide

theorem Style.all_admits {style : Style} {text : List Char} (printable : text.all isPrintable = true) :
    text.all style.admits = true := by
  simp only [List.all_eq_true] at printable ⊢
  intro c member
  simp [admits, printable c member]

theorem isPrintable_escapedUnit (unit : Nat) : (escapedUnit unit).all isPrintable = true := by
  have digits : ∀ digit < 16, isPrintable (hexDigit digit) = true := by decide +kernel
  have digit (n : Nat) : isPrintable (hexDigit (n % 16)) = true := digits _ (Nat.mod_lt n (by decide))
  have front : isPrintable '\\' = true ∧ isPrintable 'u' = true := by decide
  simp [escapedUnit, hexDigits, digit, front]

theorem isPrintable_escapedChar (c : Char) : (escapedChar c).all isPrintable = true := by
  unfold escapedChar
  split
  · next own =>
      have same : c = '"' ∨ c = '\\' := by simpa using own
      rcases same with rfl | rfl <;> rfl
  iterate 5
    split
    · rfl
  split
  · next plain => simpa [isPrintable] using plain
  split
  · exact isPrintable_escapedUnit _
  · rw [List.all_append, isPrintable_escapedUnit, isPrintable_escapedUnit, Bool.and_self]

theorem isPrintable_textLiteral (text : String) : (textLiteral text).all isPrintable = true := by
  have quote : isPrintable '"' = true := rfl
  simp [textLiteral, List.all_flatMap, isPrintable_escapedChar, quote]

theorem isPrintable_intLiteral (value : Int) : (intLiteral value).all isPrintable = true := by
  have digits (n : Nat) : (Nat.toDigits 10 n).all isPrintable = true := by
    rw [List.all_eq_true]
    intro c member
    have bounds := isDigit_of_mem_toDigits member
    simp only [Char.isDigit, Bool.and_eq_true, decide_eq_true_eq] at bounds
    have lower : 48 ≤ c.toNat := bounds.1
    have upper : c.toNat ≤ 57 := bounds.2
    simp only [isPrintable, Bool.and_eq_true, decide_eq_true_eq]
    omega
  have sign : isPrintable '-' = true := rfl
  unfold intLiteral
  split
  · rw [List.all_cons, sign, digits, Bool.and_self]
  · exact digits _

section

variable {style : Style}

/-- The layout breaks lines only where the style allows it. -/
theorem Style.all_admits_layout (style : Style) (level : Nat) :
    (style.layout level).first.all style.admits = true ∧
      (style.layout level).between.all style.admits = true ∧
      (style.layout level).last.all style.admits = true := by
  have lines (level : Nat) : (lineStart level).all Style.indented.admits = true := by
    have blank : Style.indented.admits ' ' = true := rfl
    have feed : Style.indented.admits '\n' = true := rfl
    simp [lineStart, blank, feed]
  cases style with
  | compact => exact ⟨rfl, rfl, rfl⟩
  | indented =>
      have comma : Style.indented.admits ',' = true := rfl
      have between : (',' :: lineStart (level + 1)).all Style.indented.admits = true := by
        rw [List.all_cons, comma, lines, Bool.and_self]
      exact ⟨lines (level + 1), between, lines level⟩

theorem all_admits_renderItems {items : List Json}
    (each : ∀ item ∈ items, ∀ level, (item.render style level).all style.admits = true)
    (level : Nat) : (renderItems style level items).all style.admits = true := by
  obtain ⟨-, between, -⟩ := style.all_admits_layout level
  induction items with
  | nil => rfl
  | cons item items ih =>
      have first := each item List.mem_cons_self (level + 1)
      have later := ih fun other member => each other (List.mem_cons_of_mem item member)
      simp only [renderItems, List.all_append, between, first, later, Bool.and_self]

theorem all_admits_renderFields {fields : List (String × Json)}
    (each : ∀ field ∈ fields, ∀ level, (field.2.render style level).all style.admits = true)
    (level : Nat) : (renderFields style level fields).all style.admits = true := by
  obtain ⟨-, between, -⟩ := style.all_admits_layout level
  have colon : [':', ' '].all style.admits = true := Style.all_admits rfl
  induction fields with
  | nil => rfl
  | cons field fields ih =>
      have name := style.all_admits (isPrintable_textLiteral field.1)
      have first := each field List.mem_cons_self (level + 1)
      have later := ih fun other member => each other (List.mem_cons_of_mem field member)
      simp only [renderFields, List.all_append, between, name, colon, first, later, Bool.and_self]

/-- A printed value is made of printable characters and, if it is indented, of line feeds. -/
theorem FloatFree.all_admits_render {value : Json} (free : FloatFree value) (style : Style)
    (level : Nat) : (value.render style level).all style.admits = true := by
  induction free generalizing level with
  | null => exact Style.all_admits rfl
  | bool value =>
      cases value with
      | true | false => exact Style.all_admits rfl
  | int value => exact Style.all_admits (isPrintable_intLiteral value)
  | str text => exact Style.all_admits (isPrintable_textLiteral text)
  | @arr items each ih =>
      cases items with
      | nil => exact Style.all_admits rfl
      | cons item items =>
          obtain ⟨first, -, last⟩ := style.all_admits_layout level
          have opening : style.admits '[' = true := rfl
          have closing : [']'].all style.admits = true := Style.all_admits rfl
          have inside := ih item List.mem_cons_self (level + 1)
          have later := all_admits_renderItems
            (fun other member => ih other (List.mem_cons_of_mem item member)) level
          simp only [render, List.all_append, List.all_cons, opening, first, inside, later, last,
            closing, Bool.and_self]
  | @obj fields each ih =>
      cases fields with
      | nil => exact Style.all_admits rfl
      | cons field fields =>
          obtain ⟨first, -, last⟩ := style.all_admits_layout level
          have opening : style.admits '\x7b' = true := rfl
          have closing : ['\x7d'].all style.admits = true := Style.all_admits rfl
          have colon : [':', ' '].all style.admits = true := Style.all_admits rfl
          have name := style.all_admits (isPrintable_textLiteral field.1)
          have inside := ih field List.mem_cons_self (level + 1)
          have later := all_admits_renderFields
            (fun other member => ih other (List.mem_cons_of_mem field member)) level
          simp only [render, List.all_append, List.all_cons, opening, first, name, colon, inside,
            later, last, closing, Bool.and_self]

end

/-! ## What can be read off a value -/

/-- A text or nothing. -/
def optionalText? : Json → Option (Option String)
  | .null => some none
  | .str text => some (some text)
  | _ => none

@[simp] theorem optionalText?_optionalText (text : Option String) :
    (optionalText text).optionalText? = some text := by
  cases text <;> rfl

/-- What the items of an array are read as, if all of them can be read. -/
def itemsAs? {α : Type} (read : Json → Option α) (value : Json) : Option (List α) :=
  value.items?.bind fun items => items.mapM read

/-- What a value is read as, unless it is null. -/
def optionalAs? {α : Type} (read : Json → Option α) : Json → Option (Option α)
  | .null => some none
  | value => (read value).map some

section

variable {α β : Type} {write : α → Json} {read : Json → Option β} {image : α → β}

/-- Items that are read one by one are read as a list. -/
theorem itemsAs?_map (reads : ∀ one, read (write one) = some (image one)) (list : List α) :
    itemsAs? read (.arr (list.map write)) = some (list.map image) := by
  rw [itemsAs?, items?_arr, Option.bind_some]
  induction list with
  | nil => rfl
  | cons one list ih => simp [reads, ih]

theorem optionalAs?_map (reads : ∀ one, read (write one) = some (image one))
    (notNull : ∀ one, write one ≠ .null) (given : Option α) :
    optionalAs? read ((given.map write).getD .null) = some (given.map image) := by
  cases given with
  | none => rfl
  | some one =>
      have same : optionalAs? read (write one) = (read (write one)).map some := by
        unfold optionalAs?
        split
        · next null => exact absurd null (notNull one)
        · rfl
      rw [Option.map_some, Option.getD_some, same, reads]
      rfl

end

end Json

namespace Diagnostic

/-- What the JSON of a report tells about a diagnostic: of the cause, only the text. -/
structure Digest where
  path : Option Path
  severity : Severity
  stage : Stage
  message : String
  causeText : Option String
  deriving DecidableEq, Repr

/-- The digest of a diagnostic. -/
def digest (diagnostic : Diagnostic) : Digest :=
  { path := diagnostic.path
    severity := diagnostic.severity
    stage := diagnostic.stage
    message := diagnostic.message
    causeText := diagnostic.causeText }

/-- The digest that is read off a value. -/
def Digest.ofJson? (value : Json) : Option Digest := do
  let path ← (value.fieldD "path").optionalText?
  let severity ← (value.fieldD "severity").text?
  let severity ← severities.lookup severity
  let stage ← (value.fieldD "kind").text?
  let stage ← stages.lookup stage
  let message ← (value.fieldD "message").text?
  let causeText ← (value.fieldD "cause").optionalText?
  return { path := path.map Path.ofString, severity, stage, message, causeText }

theorem Digest.ofJson?_toJson (diagnostic : Diagnostic) :
    ofJson? diagnostic.toJson = some diagnostic.digest := by
  have severity : severities.lookup diagnostic.severity.name = some diagnostic.severity := by
    cases diagnostic.severity <;> rfl
  have stage : stages.lookup diagnostic.stage.name = some diagnostic.stage := by
    cases diagnostic.stage <;> rfl
  have path : diagnostic.pathText.map Path.ofString = diagnostic.path := by
    simp [pathText, Option.map_map, Function.comp_def, Path.ofString_toString]
  have fields (name : String) : diagnostic.toJson.field? name = _ := Json.field?_obj name _
  simp [ofJson?, Json.fieldD, fields, List.lookup_cons, severity, stage, path, digest]

end Diagnostic

namespace Report

/-- The numbers that the JSON of a report tells. -/
structure Tally where
  scanned : Int
  enhanced : Int
  unchanged : Int
  warnings : Int
  errors : Int
  deriving DecidableEq, Repr

/-- The numbers that are read off a value. -/
def Tally.ofJson? (value : Json) : Option Tally := do
  let scanned ← (value.fieldD "scanned").int?
  let enhanced ← (value.fieldD "enhanced").int?
  let unchanged ← (value.fieldD "unchanged").int?
  let warnings ← (value.fieldD "warnings").int?
  let errors ← (value.fieldD "errors").int?
  return { scanned, enhanced, unchanged, warnings, errors }

/-- What the JSON of a report tells, but for the times at which the run began and ended. -/
structure Digest where
  status : RunStatus
  finalState : RunState
  skipReason : Option String
  classesDir : Path
  tally : Tally
  enhanced : List Path
  milliseconds : Int
  diagnostics : List Diagnostic.Digest
  abort : Option Diagnostic.Digest
  deriving DecidableEq, Repr

/-- The digest of a report. -/
def digest (report : Report) : Digest :=
  { status := report.status
    finalState := report.finalState
    skipReason := report.skipReason
    classesDir := report.classesDir
    tally :=
      { scanned := report.scanned.length
        enhanced := report.enhanced.length
        unchanged := report.unchanged.length
        warnings := report.count .warning
        errors := report.count .error }
    enhanced := report.enhanced
    milliseconds := report.milliseconds
    diagnostics := report.diagnostics.map Diagnostic.digest
    abort := report.abort.map Diagnostic.digest }

/-- The digest that is read off a value. -/
def Digest.ofJson? (value : Json) : Option Digest := do
  let status ← (value.fieldD "status").text?
  let status ← RunStatus.choices.lookup status
  let finalState ← (value.fieldD "state").text?
  let finalState ← RunState.ofName? finalState
  let skipReason ← (value.fieldD "skip_reason").optionalText?
  let classesDir ← (value.fieldD "classes_dir").text?
  let tally ← Tally.ofJson? (value.fieldD "summary")
  let enhanced ← (value.fieldD "enhanced").itemsAs? Json.text?
  let milliseconds ← (value.fieldD "duration_ms").int?
  let diagnostics ← (value.fieldD "diagnostics").itemsAs? Diagnostic.Digest.ofJson?
  let abort ← (value.fieldD "abort").optionalAs? Diagnostic.Digest.ofJson?
  return {
    status, finalState, skipReason, tally, milliseconds, diagnostics, abort
    classesDir := Path.ofString classesDir
    enhanced := enhanced.map Path.ofString }

theorem Digest.ofJson?_toJson (report : Report) : ofJson? report.toJson = some report.digest := by
  have status : RunStatus.choices.lookup report.status.name = some report.status := by
    cases report.status <;> rfl
  have finalState : RunState.ofName? report.finalState.name = some report.finalState := by
    cases report.finalState <;> rfl
  have tally : Tally.ofJson? report.summary = some report.digest.tally := by
    have counts (name : String) : report.summary.field? name = _ := Json.field?_obj name _
    simp [Tally.ofJson?, Json.fieldD, counts, List.lookup_cons, digest, Json.int?, Json.nat]
  have enhanced : Json.itemsAs? Json.text? (.texts (report.enhanced.map Path.toString)) =
      some (report.enhanced.map Path.toString) := by
    have reads (text : String) : (Json.str text).text? = some (id text) := rfl
    rw [Json.texts, Json.itemsAs?_map reads, List.map_id]
  have paths : (report.enhanced.map Path.toString).map Path.ofString = report.enhanced := by
    simp [Function.comp_def, Path.ofString_toString]
  have diagnostics := Json.itemsAs?_map Diagnostic.Digest.ofJson?_toJson report.diagnostics
  have nonnull (diagnostic : Diagnostic) : diagnostic.toJson ≠ .null := by simp [Diagnostic.toJson]
  have abort := Json.optionalAs?_map Diagnostic.Digest.ofJson?_toJson nonnull report.abort
  have fields (name : String) : report.toJson.field? name = _ := Json.field?_obj name _
  simp [ofJson?, Json.fieldD, fields, List.lookup_cons, status, finalState, tally, enhanced, paths,
    diagnostics, abort, Path.ofString_toString, digest, Json.int?]

/-- What the texts of a report are made of: either of ASCII only, the one on a line of nothing that breaks
a line. -/
theorem all_admits_jsonText (report : Report) :
    (report.jsonText true).toList.all Json.Style.indented.admits = true ∧
      (report.jsonText false).toList.all Json.isPrintable = true := by
  have admitted (style : Json.Style) := report.toJson_floatFree.all_admits_render style 0
  have single : Json.Style.compact.admits = Json.isPrintable := by
    funext c
    simp [Json.Style.admits]
  constructor
  · simpa [jsonText, Json.indented] using admitted .indented
  · simpa [jsonText, Json.compact, single] using admitted .compact

/-- How the JSON of a report tells what is in it. -/
structure TellsAll (report : Report) (value : Json) : Prop where
  /-- Either text is read as the value. -/
  read : ∀ pretty, Json.read? (report.jsonText pretty) = some value
  /-- Either text is ASCII. -/
  ascii : ∀ pretty, ∀ c ∈ (report.jsonText pretty).toList, c.toNat < 0x80
  /-- The compact text holds only characters that are printed, so that nothing breaks its line. -/
  oneLine : ∀ c ∈ (report.jsonText false).toList, Json.isPrintable c = true
  /-- All that is to be told can be read off the value. -/
  tells : Digest.ofJson? value = some report.digest
  /-- The numbers are those of the items of the lists. -/
  tallies : report.digest.tally =
    { scanned := report.scanned.length
      enhanced := report.digest.enhanced.length
      unchanged := report.unchanged.length
      warnings := (report.diagnostics.filter (·.severity = .warning)).length
      errors := (report.diagnostics.filter (·.severity = .error)).length }
  /-- Every diagnostic is counted once. -/
  counted : report.digest.tally.warnings + report.digest.tally.errors =
    report.digest.diagnostics.length

/-- Both texts of a report are ASCII, the compact one has no line break, and both are read as one value,
off which all but the times can be read. -/
theorem jsonText_tells (report : Report) : ∃ value, report.TellsAll value := by
  obtain ⟨indented, compact⟩ := report.all_admits_jsonText
  rw [List.all_eq_true] at indented compact
  refine ⟨report.toJson, ?_⟩
  constructor
  case tells => exact Digest.ofJson?_toJson report
  case oneLine => exact compact
  case read =>
    intro pretty
    have blank : ([] : List Char).all Json.isBlank = true := rfl
    simpa using report.read?_jsonText_append pretty blank
  case ascii =>
    intro pretty c member
    cases pretty with
    | true => exact Json.Style.isAscii_of_admits (indented c member)
    | false =>
        have printable := compact c member
        have admitted : Json.Style.compact.admits c = true := by simp [Json.Style.admits, printable]
        exact Json.Style.isAscii_of_admits admitted
  case tallies => simp [digest, count, List.countP_eq_length_filter]
  case counted =>
    have counted := report.count_warning_add_count_error
    simp only [digest, List.length_map]
    omega

end Report

end Enhance
