import Enhance.Json.Reader
import Enhance.Report.Rendering
import Mathlib.Data.List.TakeWhile

/-!
# Printed values are read back

Reading inverts printing: in either layout the text of a value without floating-point numbers is read as
that value (`Json.read?_of_printed`), whatever its texts are.
-/

namespace Enhance

open Text Number

namespace Json

/-! ## Texts -/

theorem hexValue?_hexDigit {digit : Nat} (small : digit < 16) :
    hexValue? (hexDigit digit) = some digit := by
  have all : ∀ digit < 16, hexValue? (hexDigit digit) = some digit := by decide +kernel
  exact all digit small

/-- Four digits are enough for a code unit. -/
theorem unit?_hexDigits {unit : Nat} (small : unit < 0x10000) (rest : List Char) :
    unit? (hexDigits 4 unit ++ rest) = some (unit, rest) := by
  have value (digit : Nat) : hexValue? (hexDigit (digit % 16)) = some (digit % 16) :=
    hexValue?_hexDigit (Nat.mod_lt digit (by decide))
  have sum : ((unit / 16 / 16 / 16 % 16 * 16 + unit / 16 / 16 % 16) * 16 + unit / 16 % 16) * 16 +
      unit % 16 = unit := by
    omega
  simp only [hexDigits, List.nil_append, List.cons_append, unit?, value, Option.bind_eq_bind,
    Option.bind_some, Option.pure_def, sum]

/-- No character is half of a pair. -/
theorem not_surrogate (c : Char) : ¬ (0xd800 ≤ c.toNat ∧ c.toNat < 0xe000) := by
  have valid : c.toNat < 0xd800 ∨ 0xdfff < c.toNat ∧ c.toNat < 0x110000 := c.valid
  omega

section

variable {digits digits' rest : List Char} {high low : Nat}

/-- A code unit that is no half of a pair stands for the character of that number. -/
theorem escape?_of_unit {c : Char} (read : unit? digits = some (c.toNat, rest)) :
    escape? ('u' :: digits) = some (.whole c, rest) := by
  simp only [escape?, read, Option.bind_eq_bind, Option.bind_some, Bool.and_eq_true,
    decide_eq_true_eq, not_surrogate c, ↓reduceIte, Option.pure_def, Char.ofNat_toNat]

/-- A pair of halves stands for a character of another plane. -/
theorem escape?_of_pair (isHigh : 0xd800 ≤ high ∧ high < 0xdc00)
    (isLow : 0xdc00 ≤ low ∧ low < 0xe000)
    (readHigh : unit? digits = some (high, '\\' :: 'u' :: digits'))
    (readLow : unit? digits' = some (low, rest)) :
    escape? ('u' :: digits) =
      some (.whole (Char.ofNat (0x10000 + (high - 0xd800) * 0x400 + (low - 0xdc00))), rest) := by
  have half : 0xd800 ≤ high ∧ high < 0xe000 := by omega
  simp only [escape?, lowHalf?, readHigh, readLow, Option.bind_eq_bind, Option.bind_some,
    Bool.and_eq_true, decide_eq_true_eq, half, isHigh, isLow, and_self, ↓reduceIte, Option.pure_def]

end

/-- A character beyond the first plane is read from the pair that stands for it. -/
theorem escape?_of_large {c : Char} (large : 0x10000 ≤ c.toNat) (rest : List Char) :
    escape? ('u' :: (hexDigits 4 (0xd800 + (c.toNat - 0x10000) / 0x400) ++
      '\\' :: 'u' :: (hexDigits 4 (0xdc00 + (c.toNat - 0x10000) % 0x400) ++ rest))) =
      some (.whole c, rest) := by
  have bound : c.toNat < 0x110000 := by
    have valid : c.toNat < 0xd800 ∨ 0xdfff < c.toNat ∧ c.toNat < 0x110000 := c.valid
    omega
  have isHigh : 0xd800 + (c.toNat - 0x10000) / 0x400 < 0xdc00 := by omega
  have isLow : 0xdc00 + (c.toNat - 0x10000) % 0x400 < 0xe000 := by omega
  have sum : 0x10000 + (0xd800 + (c.toNat - 0x10000) / 0x400 - 0xd800) * 0x400 +
      (0xdc00 + (c.toNat - 0x10000) % 0x400 - 0xdc00) = c.toNat := by
    omega
  have readHigh := unit?_hexDigits (Nat.lt_trans isHigh (by decide))
    ('\\' :: 'u' :: (hexDigits 4 (0xdc00 + (c.toNat - 0x10000) % 0x400) ++ rest))
  have readLow := unit?_hexDigits (Nat.lt_trans isLow (by decide)) rest
  have pair := escape?_of_pair ⟨Nat.le_add_right _ _, isHigh⟩ ⟨Nat.le_add_right _ _, isLow⟩ readHigh
    readLow
  rw [sum, Char.ofNat_toNat] at pair
  exact pair

/-- A sign that is escaped is read from its escape. -/
theorem readText?_of_escape {sign : Sign} {escaped rest : List Char}
    (reads : escape? escaped = some (sign, rest)) (fuel : Nat) (seen : List Sign) :
    readText? (fuel + 1) seen ('\\' :: escaped) = readText? fuel (sign :: seen) rest := by
  rw [readText?]
  simp only [Char.reduceEq, ↓reduceIte, reads]

/-- Reading inverts escaping, one character at a time. -/
theorem readText?_escapedChar (c : Char) (fuel : Nat) (seen : List Sign) (rest : List Char) :
    readText? (fuel + 1) seen (escapedChar c ++ rest) = readText? fuel (.whole c :: seen) rest := by
  unfold escapedChar
  split
  · next own =>
      apply readText?_of_escape
      rcases (by simpa using own : c = '"' ∨ c = '\\') with rfl | rfl <;> rfl
  split
  · next same => exact readText?_of_escape (same ▸ rfl) fuel seen
  split
  · next same => exact readText?_of_escape (same ▸ rfl) fuel seen
  split
  · next same => exact readText?_of_escape (same ▸ rfl) fuel seen
  split
  · next same => exact readText?_of_escape (same ▸ rfl) fuel seen
  split
  · next same => exact readText?_of_escape (same ▸ rfl) fuel seen
  split
  · next notOwn _ _ _ _ _ _ =>
      obtain ⟨notQuote, notSlash⟩ : c ≠ '"' ∧ c ≠ '\\' := by simpa using notOwn
      simp only [List.cons_append, List.nil_append, readText?, notQuote, notSlash, ↓reduceIte]
  split
  · next small =>
      exact readText?_of_escape (escape?_of_unit (unit?_hexDigits small rest)) fuel seen
  · next large =>
      have reads := escape?_of_large (Nat.le_of_not_lt large) rest
      simp only [escapedUnit, List.append_assoc, List.cons_append]
      exact readText?_of_escape reads fuel seen

/-- A printed text is read up to its closing quote. -/
theorem readText?_flatMap (text : List Char) (seen : List Sign) (rest : List Char) {fuel : Nat}
    (enough : text.length < fuel) :
    readText? fuel seen (text.flatMap escapedChar ++ '"' :: rest) =
      some ((text.map .whole).reverse ++ seen, rest) := by
  induction text generalizing fuel seen with
  | nil =>
      cases fuel with
      | zero => contradiction
      | succ fuel => simp [readText?]
  | cons c text ih =>
      cases fuel with
      | zero => contradiction
      | succ fuel =>
          rw [List.flatMap_cons, List.append_assoc, readText?_escapedChar,
            ih _ (Nat.lt_of_succ_lt_succ enough)]
          simp

theorem length_le_flatMap (text : List Char) : text.length ≤ (text.flatMap escapedChar).length := by
  have each (c : Char) : 1 ≤ (escapedChar c).length := by
    unfold escapedChar escapedUnit
    grind
  induction text with
  | nil => exact Nat.le_refl 0
  | cons c text ih =>
      rw [List.flatMap_cons, List.length_append, List.length_cons]
      have := each c
      omega

/-! ## Numbers -/

/-- What follows does not go on with a number. -/
def endsNumber (rest : List Char) : Bool :=
  rest.head?.all fun c => !c.isDigit && c ≠ '.' && c ≠ 'e' && c ≠ 'E'

theorem valueOfDigits_toDigits (n : Nat) : valueOfDigits (Nat.toDigits 10 n) = n := by
  have value : Nat.ofDigitChars 10 (Nat.toDigits 10 n) 0 = n := Nat.ofDigitChars_ten_toDigits
  rw [Nat.ofDigitChars_eq_foldl] at value
  simpa only [valueOfDigits, Nat.mul_comm] using value

theorem isDigit_of_mem_toDigits {n : Nat} {c : Char} (member : c ∈ Nat.toDigits 10 n) :
    c.isDigit = true :=
  Nat.isDigit_of_mem_toDigits (by decide) (by decide) member

theorem exists_toDigits (n : Nat) :
    ∃ digit digits, Nat.toDigits 10 n = digit :: digits ∧ digit.isDigit = true := by
  cases written : Nat.toDigits 10 n with
  | nil => exact absurd written Nat.toDigits_ne_nil
  | cons digit digits =>
      exact ⟨digit, digits, rfl, isDigit_of_mem_toDigits (written ▸ List.mem_cons_self)⟩

theorem ne_of_isDigit {c : Char} (isDigit : c.isDigit = true) (other : Char)
    (no : other.isDigit = false) : c ≠ other := by
  rintro rfl
  rw [isDigit] at no
  contradiction

section

variable {rest : List Char} (ends : endsNumber rest = true)

include ends

/-- All digits of a number are read. -/
theorem digits?_toDigits (n : Nat) :
    digits? (Nat.toDigits 10 n ++ rest) = some (Nat.toDigits 10 n, rest) := by
  have all : ∀ c ∈ Nat.toDigits 10 n, c.isDigit = true := fun _ => isDigit_of_mem_toDigits
  have stops : rest.takeWhile Char.isDigit = [] ∧ rest.dropWhile Char.isDigit = rest := by
    cases rest with
    | nil => exact ⟨rfl, rfl⟩
    | cons c rest =>
        have noDigit : c.isDigit = false := by
          simp only [endsNumber, List.head?_cons, Option.all_some, Bool.and_eq_true] at ends
          simpa using ends.1.1.1
        simp [noDigit]
  rw [digits?, List.takeWhile_append_of_pos all, List.dropWhile_append_of_pos all, stops.1, stops.2,
    List.append_nil]
  obtain ⟨digit, digits, written, -⟩ := exists_toDigits n
  rw [written]

/-- Digits without a fraction and an exponent write an integer. -/
theorem readNumber?_of_digits {text digits : List Char} (read : digits? text = some (digits, rest))
    (unsigned : ∀ tail, text ≠ '-' :: tail) :
    readNumber? text = some (.int (valueOfDigits digits), rest) ∧
      readNumber? ('-' :: text) = some (.int (-valueOfDigits digits), rest) := by
  cases rest with
  | nil => simp [readNumber?, read]
  | cons c rest =>
      simp [endsNumber] at ends
      simp [readNumber?, read, ends]

/-- A printed integer is read up to its last digit. -/
theorem readNumber?_intLiteral (value : Int) :
    readNumber? (intLiteral value ++ rest) = some (.int value, rest) := by
  obtain ⟨digit, digits, written, isDigit⟩ := exists_toDigits value.natAbs
  have unsigned (tail : List Char) : Nat.toDigits 10 value.natAbs ++ rest ≠ '-' :: tail := by
    rw [written]
    intro same
    exact ne_of_isDigit isDigit '-' rfl (List.cons.inj same).1
  obtain ⟨natural, negative⟩ := readNumber?_of_digits ends (digits?_toDigits ends value.natAbs) unsigned
  rw [valueOfDigits_toDigits] at natural negative
  rw [intLiteral]
  split
  · next below =>
      rw [List.cons_append, negative, show -(value.natAbs : Int) = value by omega]
  · next above =>
      rw [natural, show (value.natAbs : Int) = value by omega]

end

/-! ## Blanks -/

section

variable {blanks text rest : List Char} {fuel : Nat}

theorem skipBlanks_append (blank : blanks.all isBlank = true) (text : List Char) :
    skipBlanks (blanks ++ text) = skipBlanks text :=
  List.dropWhile_append_of_pos (List.all_eq_true.1 blank)

theorem readValue?_skip (blank : blanks.all isBlank = true) (fuel : Nat) (text : List Char) :
    readValue? fuel (blanks ++ text) = readValue? fuel text := by
  cases fuel with
  | zero => rfl
  | succ fuel => simp only [readValue?, skipBlanks_append blank]

theorem readValue?_blank (fuel : Nat) (text : List Char) :
    readValue? fuel (' ' :: text) = readValue? fuel text := by
  have blank : [' '].all isBlank = true := rfl
  exact readValue?_skip blank fuel text

theorem readItems?_skip (blank : blanks.all isBlank = true) (fuel : Nat) (seen : List Json)
    (text : List Char) : readItems? fuel seen (blanks ++ text) = readItems? fuel seen text := by
  cases fuel with
  | zero => rfl
  | succ fuel => simp only [readItems?, readValue?_skip blank]

theorem readFields?_skip (blank : blanks.all isBlank = true) (fuel : Nat)
    (seen : List (String × Json)) (text : List Char) :
    readFields? fuel seen (blanks ++ text) = readFields? fuel seen text := by
  cases fuel with
  | zero => rfl
  | succ fuel => simp only [readFields?, skipBlanks_append blank]

theorem endsNumber_append (blank : blanks.all isBlank = true) (ends : endsNumber rest = true) :
    endsNumber (blanks ++ rest) = true := by
  cases blanks with
  | nil => exact ends
  | cons c blanks =>
      simp only [List.all_cons, Bool.and_eq_true, isBlank, Bool.or_eq_true, decide_eq_true_eq,
        or_assoc] at blank
      rcases blank.1 with rfl | rfl | rfl | rfl <;> rfl

theorem readItems?_skipBlanks (fuel : Nat) (seen : List Json) (text : List Char) :
    readItems? fuel seen (skipBlanks text) = readItems? fuel seen text := by
  have blank : (text.takeWhile isBlank).all isBlank = true :=
    List.all_eq_true.2 fun _ => List.mem_takeWhile_imp
  rw [← readItems?_skip blank, skipBlanks, List.takeWhile_append_dropWhile]

/-- What is read as items begins with no closing bracket. -/
theorem readItems?_closed (fuel : Nat) (seen : List Json) (rest : List Char) :
    readItems? fuel seen (']' :: rest) = none := by
  have noValue (fuel : Nat) : readValue? fuel (']' :: rest) = none := by
    cases fuel <;> rfl
  cases fuel with
  | zero => rfl
  | succ fuel => rw [readItems?, noValue]

end

/-! ## Values -/

/-- Items stand apart by a comma and, but for that, by blanks only. -/
structure Layout.IsLoose (layout : Layout) (gap : List Char) : Prop where
  first : layout.first.all isBlank = true
  between : layout.between = ',' :: gap
  gap : gap.all isBlank = true
  last : layout.last.all isBlank = true

theorem Style.exists_gap (style : Style) (level : Nat) :
    ∃ gap, (style.layout level).IsLoose gap := by
  have indentation (level : Nat) : (lineStart level).all isBlank = true := by
    simp [lineStart, isBlank]
  cases style with
  | compact => exact ⟨[' '], rfl, rfl, rfl, rfl⟩
  | indented => exact ⟨lineStart (level + 1), indentation _, rfl, indentation _, indentation _⟩

/-- A value in which there are no floating-point numbers. -/
inductive FloatFree : Json → Prop
  | null : FloatFree .null
  | bool (value : Bool) : FloatFree (.bool value)
  | int (value : Int) : FloatFree (.int value)
  | str (text : String) : FloatFree (.str text)
  | arr {items : List Json} (each : ∀ item ∈ items, FloatFree item) : FloatFree (.arr items)
  | obj {fields : List (String × Json)} (each : ∀ field ∈ fields, FloatFree field.2) :
      FloatFree (.obj fields)

namespace FloatFree

@[simp] theorem of_null : FloatFree .null := .null

@[simp] theorem of_bool (value : Bool) : FloatFree (.bool value) := .bool value

@[simp] theorem of_int (value : Int) : FloatFree (.int value) := .int value

@[simp] theorem of_str (text : String) : FloatFree (.str text) := .str text

@[simp] theorem arr_iff {items : List Json} :
    FloatFree (.arr items) ↔ ∀ item ∈ items, FloatFree item := by
  constructor
  · intro free
    cases free with
    | arr each => exact each
  · exact .arr

@[simp] theorem obj_iff {fields : List (String × Json)} :
    FloatFree (.obj fields) ↔ ∀ field ∈ fields, FloatFree field.2 := by
  constructor
  · intro free
    cases free with
    | obj each => exact each
  · exact .obj

@[simp] theorem of_nat (value : Nat) : FloatFree (Json.nat value) := .int value

@[simp] theorem of_optionalText (text : Option String) : FloatFree (optionalText text) := by
  cases text with
  | none => exact .null
  | some text => exact .str text

@[simp] theorem of_texts (items : List String) : FloatFree (texts items) := by
  simp [texts]

end FloatFree

/-- The text of a value is read as that value, wherever it stands. -/
def ReadsBack (style : Style) (value : Json) : Prop :=
  ∀ (level fuel : Nat) (rest : List Char), (value.render style level).length < fuel →
    endsNumber rest = true → readValue? fuel (value.render style level ++ rest) = some (value, rest)

section

variable {style : Style} {level fuel : Nat} {gap : List Char}

/-- What begins with a digit, behind a sign or not, is read as a number. -/
theorem readValue?_of_isDigit {c : Char} (isDigit : c.isDigit = true) (fuel : Nat) (rest : List Char) :
    readValue? (fuel + 1) (c :: rest) = readNumber? (c :: rest) ∧
      readValue? (fuel + 1) ('-' :: c :: rest) = readNumber? ('-' :: c :: rest) := by
  have ne := ne_of_isDigit isDigit
  have notBlank : isBlank c = false := by
    simp [isBlank, ne ' ' rfl, ne '\n' rfl, ne '\r' rfl,
      ne '\t' rfl]
  have unblank : skipBlanks (c :: rest) = c :: rest := by
    simp [skipBlanks, notBlank]
  have unblank' : skipBlanks ('-' :: c :: rest) = '-' :: c :: rest := rfl
  constructor
  · simp [readValue?, unblank, ne 'n' rfl, ne 't' rfl, ne 'f' rfl,
      ne 'N' rfl, ne 'I' rfl, ne '-' rfl, ne '"' rfl,
      ne '[' rfl, ne '\x7b' rfl]
  · simp [readValue?, unblank', ne 'I' rfl]

theorem readsBack_int (value : Int) : ReadsBack style (.int value) := by
  intro level fuel rest enough ends
  cases fuel with
  | zero => contradiction
  | succ fuel =>
      have read := readNumber?_intLiteral ends value
      obtain ⟨digit, digits, written, isDigit⟩ := exists_toDigits value.natAbs
      obtain ⟨natural, negative⟩ := readValue?_of_isDigit isDigit fuel (digits ++ rest)
      rw [render]
      rw [intLiteral, written] at read ⊢
      split at read
      · next below =>
          rw [if_pos below]
          exact negative.trans read
      · next above =>
          rw [if_neg above]
          exact natural.trans read

theorem readsBack_str (text : String) : ReadsBack style (.str text) := by
  intro level fuel rest enough ends
  cases fuel with
  | zero => contradiction
  | succ fuel =>
      have short := length_le_flatMap text.toList
      simp only [render, textLiteral, List.cons_append, List.length_cons, List.length_append] at enough
      have enough' : text.toList.length < fuel := by omega
      have read := readText?_flatMap text.toList [] rest enough'
      have opens (text : List Char) : skipBlanks ('"' :: text) = '"' :: text := rfl
      simp only [render, textLiteral, List.cons_append, List.append_assoc, List.nil_append,
        readValue?, opens, read, List.append_nil, Option.map_some, List.reverse_reverse]
      rw [← RawText.ofString, ofRaw, RawText.text?_ofString]

/-- An item is read, and what stands behind it says whether more items follow. -/
theorem readItems?_cons {item : Json} {tail : List Char} (reads : ReadsBack style item)
    (enough : (item.render style level).length < fuel) (ends : endsNumber tail = true)
    (seen : List Json) :
    (∀ rest, skipBlanks tail = ',' :: rest →
      readItems? (fuel + 1) seen (item.render style level ++ tail) =
        readItems? fuel (item :: seen) rest) ∧
    ∀ rest, skipBlanks tail = ']' :: rest →
      readItems? (fuel + 1) seen (item.render style level ++ tail) =
        some (.arr (item :: seen).reverse, rest) := by
  have read := reads level fuel tail enough ends
  constructor
  · intro rest goesOn
    simp only [readItems?, read, goesOn]
  · intro rest closes
    simp only [readItems?, read, closes]

/-- A field is read, and what stands behind it says whether more fields follow. -/
theorem readFields?_cons {name : String} {value : Json} {tail : List Char}
    (reads : ReadsBack style value)
    (enough : (textLiteral name).length + (value.render style level).length < fuel)
    (ends : endsNumber tail = true) (seen : List (String × Json)) :
    (∀ rest, skipBlanks tail = ',' :: rest →
      readFields? (fuel + 1) seen
          (textLiteral name ++ ':' :: ' ' :: (value.render style level ++ tail)) =
        readFields? fuel ((name, value) :: seen) rest) ∧
    ∀ rest, skipBlanks tail = '\x7d' :: rest →
      readFields? (fuel + 1) seen
          (textLiteral name ++ ':' :: ' ' :: (value.render style level ++ tail)) =
        some (.obj ((name, value) :: seen).reverse, rest) := by
  have opens (text : List Char) : skipBlanks ('"' :: text) = '"' :: text := rfl
  have names (text : List Char) : skipBlanks (':' :: text) = ':' :: text := rfl
  have read : readValue? fuel (' ' :: (value.render style level ++ tail)) = some (value, tail) :=
    (readValue?_blank fuel _).trans (reads level fuel tail (by omega) ends)
  have short := length_le_flatMap name.toList
  simp only [textLiteral, List.cons_append, List.length_cons, List.length_append] at enough
  have enoughForName : name.toList.length < fuel := by omega
  have readName := readText?_flatMap name.toList []
    (':' :: ' ' :: (value.render style level ++ tail)) enoughForName
  have isText : RawText.text? ⟨name.toList.map .whole⟩ = some name := RawText.text?_ofString name
  simp only [textLiteral, List.cons_append, List.append_assoc, List.nil_append, readFields?, opens,
    readName, names, read, List.append_nil, List.reverse_reverse, isText]
  constructor
  · intro rest goesOn
    simp only [goesOn]
  · intro rest closes
    simp only [closes]

variable {gap : List Char} (loose : (style.layout level).IsLoose gap)

include loose

/-- The items of an array are read up to the closing bracket. -/
theorem readItems?_render {item : Json} {items : List Json}
    (reads : ∀ other ∈ item :: items, ReadsBack style other) (seen : List Json) (rest : List Char)
    (enough : (item.render style (level + 1)).length + (renderItems style level items).length + 1 <
      fuel) :
    readItems? fuel seen (item.render style (level + 1) ++ (renderItems style level items ++
      ((style.layout level).last ++ ']' :: rest))) =
      some (.arr (seen.reverse ++ item :: items), rest) := by
  obtain ⟨-, between, blank, last⟩ := loose
  induction items generalizing item seen fuel with
  | nil =>
      obtain ⟨fuel, rfl⟩ := Nat.exists_eq_succ_of_ne_zero (Nat.ne_zero_of_lt enough)
      have closes : skipBlanks ((style.layout level).last ++ ']' :: rest) = ']' :: rest :=
        skipBlanks_append last _
      have ends : endsNumber ((style.layout level).last ++ ']' :: rest) = true :=
        endsNumber_append last rfl
      rw [renderItems, List.nil_append,
        (readItems?_cons (reads item List.mem_cons_self) (by omega) ends seen).2 _ closes]
      simp
  | cons next items ih =>
      obtain ⟨fuel, rfl⟩ := Nat.exists_eq_succ_of_ne_zero (Nat.ne_zero_of_lt enough)
      simp only [renderItems, between, List.cons_append, List.append_assoc, List.length_cons,
        List.length_append] at enough ⊢
      rw [(readItems?_cons (reads item List.mem_cons_self) (by omega) rfl seen).1 _ rfl,
        readItems?_skip blank, ih (fun other member => reads other (List.mem_cons_of_mem item member))
        (item :: seen) (by omega)]
      simp

/-- The fields of an object are read up to the closing brace. -/
theorem readFields?_render {name : String} {value : Json} {fields : List (String × Json)}
    (reads : ∀ other ∈ (name, value) :: fields, ReadsBack style other.2)
    (seen : List (String × Json)) (rest : List Char)
    (enough : (textLiteral name).length + (value.render style (level + 1)).length +
      (renderFields style level fields).length + 1 < fuel) :
    readFields? fuel seen (textLiteral name ++ ':' :: ' ' :: (value.render style (level + 1) ++
      (renderFields style level fields ++ ((style.layout level).last ++ '\x7d' :: rest)))) =
      some (.obj (seen.reverse ++ (name, value) :: fields), rest) := by
  obtain ⟨-, between, blank, last⟩ := loose
  induction fields generalizing name value seen fuel with
  | nil =>
      obtain ⟨fuel, rfl⟩ := Nat.exists_eq_succ_of_ne_zero (Nat.ne_zero_of_lt enough)
      have closes : skipBlanks ((style.layout level).last ++ '\x7d' :: rest) = '\x7d' :: rest :=
        skipBlanks_append last _
      have read : ReadsBack style value := reads _ List.mem_cons_self
      have ends : endsNumber ((style.layout level).last ++ '\x7d' :: rest) = true :=
        endsNumber_append last rfl
      rw [renderFields, List.nil_append,
        (readFields?_cons read (by omega) ends seen).2 _ closes]
      simp
  | cons next fields ih =>
      obtain ⟨fuel, rfl⟩ := Nat.exists_eq_succ_of_ne_zero (Nat.ne_zero_of_lt enough)
      simp only [renderFields, between, List.cons_append, List.append_assoc, List.length_cons,
        List.length_append, List.length_nil] at enough ⊢
      have read : ReadsBack style value := reads _ List.mem_cons_self
      rw [(readFields?_cons read (by omega) rfl seen).1 _ rfl, readFields?_skip blank,
        List.nil_append, ih (fun other member => reads other (List.mem_cons_of_mem _ member))
          ((name, value) :: seen) (by omega)]
      simp

end

theorem readsBack_arr {style : Style} {items : List Json}
    (reads : ∀ item ∈ items, ReadsBack style item) : ReadsBack style (.arr items) := by
  intro level fuel rest enough ends
  obtain ⟨fuel, rfl⟩ := Nat.exists_eq_succ_of_ne_zero (Nat.ne_zero_of_lt enough)
  have opens (text : List Char) : skipBlanks ('[' :: text) = '[' :: text := rfl
  cases items with
  | nil => rfl
  | cons item items =>
      obtain ⟨gap, loose⟩ := style.exists_gap level
      simp only [render, List.cons_append, List.append_assoc, List.length_cons, List.length_append,
        List.length_nil, List.nil_append, readValue?, opens, skipBlanks_append loose.first] at enough ⊢
      have all := readItems?_render loose reads [] rest (show _ < fuel by omega)
      rw [← readItems?_skipBlanks] at all
      split
      · next closes =>
          rw [closes, readItems?_closed] at all
          contradiction
      · exact all

theorem readsBack_obj {style : Style} {fields : List (String × Json)}
    (reads : ∀ field ∈ fields, ReadsBack style field.2) : ReadsBack style (.obj fields) := by
  intro level fuel rest enough ends
  obtain ⟨fuel, rfl⟩ := Nat.exists_eq_succ_of_ne_zero (Nat.ne_zero_of_lt enough)
  have opens (text : List Char) : skipBlanks ('\x7b' :: text) = '\x7b' :: text := rfl
  cases fields with
  | nil => rfl
  | cons field fields =>
      obtain ⟨name, value⟩ := field
      obtain ⟨gap, loose⟩ := style.exists_gap level
      simp only [render, List.cons_append, List.append_assoc, List.length_cons, List.length_append,
        List.length_nil, List.nil_append, readValue?, opens, skipBlanks_append loose.first] at enough ⊢
      have begins (text : List Char) :
          skipBlanks (textLiteral name ++ text) = textLiteral name ++ text := rfl
      rw [begins]
      apply readFields?_render loose reads
      omega

/-- Reading inverts printing. -/
theorem FloatFree.readsBack {value : Json} (free : FloatFree value) (style : Style) :
    ReadsBack style value := by
  induction free with
  | null =>
      intro level fuel rest enough ends
      obtain ⟨fuel, rfl⟩ := Nat.exists_eq_succ_of_ne_zero (Nat.ne_zero_of_lt enough)
      rfl
  | bool value =>
      intro level fuel rest enough ends
      obtain ⟨fuel, rfl⟩ := Nat.exists_eq_succ_of_ne_zero (Nat.ne_zero_of_lt enough)
      cases value with
      | true | false => rfl
  | int value => exact readsBack_int value
  | str text => exact readsBack_str text
  | arr each ih => exact readsBack_arr ih
  | obj each ih => exact readsBack_obj ih

/-- The text of a value, with blanks behind it, is read as that value. -/
theorem FloatFree.read?_render {value : Json} (free : FloatFree value) (style : Style)
    {ending : List Char} (blank : ending.all isBlank = true) :
    read? (String.ofList (value.render style 0 ++ ending)) = some value := by
  have ends : endsNumber ending = true := by
    have nothing : endsNumber [] = true := rfl
    simpa using endsNumber_append blank nothing
  have read := free.readsBack style 0 ((value.render style 0 ++ ending).length + 1) ending
    (by rw [List.length_append]; omega) ends
  have nothing : skipBlanks ending = [] := List.dropWhile_eq_nil_iff.2 (List.all_eq_true.1 blank)
  rw [read?, String.length_ofList, String.toList_ofList, read]
  simp only [nothing, ↓reduceIte]

end Json

/-! ## Reports -/

@[simp] theorem Diagnostic.toJson_floatFree (diagnostic : Diagnostic) :
    diagnostic.toJson.FloatFree := by
  simp [Diagnostic.toJson]

namespace Report

theorem toJson_floatFree (report : Report) : report.toJson.FloatFree := by
  have abort : ((report.abort.map Diagnostic.toJson).getD .null).FloatFree := by
    cases report.abort with
    | none => exact .null
    | some diagnostic => exact diagnostic.toJson_floatFree
  simp [toJson, summary, abort]

/-- The text of a report is read as the report, in either layout and whatever blanks stand behind it. -/
theorem read?_jsonText_append (report : Report) (pretty : Bool) {ending : List Char}
    (blank : ending.all Json.isBlank = true) :
    Json.read? (report.jsonText pretty ++ String.ofList ending) = some report.toJson := by
  have reads (style : Json.Style) :
      Json.read? (String.ofList (report.toJson.render style 0) ++ String.ofList ending) =
        some report.toJson := by
    rw [← String.ofList_append]
    exact report.toJson_floatFree.read?_render style blank
  cases pretty with
  | true => exact reads .indented
  | false => exact reads .compact

theorem read?_jsonText (report : Report) (pretty : Bool) :
    Json.read? (report.jsonText pretty ++ "\n") = some report.toJson := by
  have blank : ['\n'].all Json.isBlank = true := rfl
  exact report.read?_jsonText_append pretty blank

end Report

end Enhance
