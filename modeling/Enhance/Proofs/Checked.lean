import Enhance.Path.Text
import Enhance.Value.Check

/-!
# What checks come to

A check that can be read off its outcome is written as a value with the issues that stand in its way
(`Checked.ofIssues`).  Checks of records are put together from those of their fields in this form, and an
accepted record is taken apart into accepted fields.
-/

namespace Enhance

/-- An issue at a place of something larger. -/
def Issue.under (step : String) (issue : Issue) : Issue :=
  { issue with place := step :: issue.place }

namespace Checked

variable {α β : Type} {issues more : List Issue} {value : α}

/-- A value that is accepted if there are no issues with it. -/
def ofIssues (issues : List Issue) (value : α) : Checked α :=
  if issues = [] then .accepted value else .rejected issues

@[simp] theorem ofIssues_nil (value : α) : ofIssues [] value = .accepted value := rfl

theorem ofIssues_of_ne_nil (some : issues ≠ []) (value : α) :
    ofIssues issues value = .rejected issues :=
  if_neg some

theorem map_ofIssues (image : α → β) (issues : List Issue) (value : α) :
    image <$> ofIssues issues value = ofIssues issues (image value) := by
  cases issues <;> rfl

/-- The issues of a function and of its argument stand in the way of its value. -/
theorem seq_ofIssues (image : α → β) (issues more : List Issue) (value : α) :
    ofIssues issues image <*> ofIssues more value = ofIssues (issues ++ more) (image value) := by
  cases more with
  | nil =>
      rw [List.append_nil]
      cases issues <;> rfl
  | cons issue more => cases issues <;> rfl

theorem inside_ofIssues (step : String) (issues : List Issue) (value : α) :
    (ofIssues issues value).inside step = ofIssues (issues.map (Issue.under step)) value := by
  cases issues <;> rfl

/-! ## Accepted values -/

theorem map_eq_accepted_iff {image : α → β} {checked : Checked α} {result : β} :
    image <$> checked = .accepted result ↔ ∃ value, checked = .accepted value ∧ image value = result := by
  cases checked with
  | accepted value => simp
  | rejected issues =>
      change Checked.rejected issues = _ ↔ _
      simp

theorem seq_eq_accepted_iff {function : Checked (α → β)} {argument : Checked α} {result : β} :
    function <*> argument = .accepted result ↔
      ∃ image value, function = .accepted image ∧ argument = .accepted value ∧ image value = result := by
  cases function with
  | accepted image =>
      cases argument with
      | accepted value => simp
      | rejected issues =>
          change Checked.rejected issues = _ ↔ _
          simp
  | rejected issues =>
      cases argument with
      | accepted value =>
          change Checked.rejected issues = _ ↔ _
          simp
      | rejected more =>
          change Checked.rejected (issues ++ more) = _ ↔ _
          simp

theorem inside_eq_accepted_iff {step : String} {checked : Checked α} :
    checked.inside step = .accepted value ↔ checked = .accepted value := by
  cases checked <;> simp [inside]

theorem andThen_eq_accepted_iff {next : α → Checked β} {checked : Checked α} {result : β} :
    checked.andThen next = .accepted result ↔
      ∃ value, checked = .accepted value ∧ next value = .accepted result := by
  cases checked <;> simp [andThen]

end Checked

namespace Value

open Checked

variable {α : Type} {name : String} {known : List String} {value : α}
  {entries : List (Value × Value)}

/-- The issues of a record are those of its fields and then those of unknown fields. -/
theorem recordOf_mapping {check : List (Value × Value) → Checked α} (issues : List Issue)
    {stray : List Issue} (checked : check entries = ofIssues issues value)
    (strays : entries.filterMap (fun entry => strayEntry? known entry.1) = stray) :
    recordOf name known check (.mapping entries) = ofIssues (issues ++ stray) value := by
  simp only [recordOf, checked, strays]
  cases stray with
  | nil =>
      rw [List.append_nil]
      cases issues <;> rfl
  | cons issue stray => cases issues <;> rfl

theorem of_recordOf {check : List (Value × Value) → Checked α} {given : Value}
    (accepted : recordOf name known check given = .accepted value) :
    ∃ entries, given = .mapping entries ∧ check entries = .accepted value := by
  cases given with
  | mapping entries =>
      refine ⟨entries, rfl, ?_⟩
      simp only [recordOf] at accepted
      cases checked : check entries with
      | accepted found =>
          rw [checked] at accepted
          split at accepted
          · exact accepted
          · contradiction
      | rejected issues =>
          rw [checked] at accepted
          split at accepted
          · contradiction
          · contradiction
  | _ => contradiction

/-- A field that is there is checked. -/
theorem defaulting_of_field {given : Value} {absent : α} {check : Value → Checked α}
    (issues : List Issue) (found : field? name entries = some given)
    (checked : check given = ofIssues issues value) :
    defaulting name absent check entries = ofIssues (issues.map (Issue.under name)) value := by
  simp only [defaulting, found, checked]
  exact inside_ofIssues name issues value

theorem defaulting_eq_accepted_iff {absent : α} {check : Value → Checked α} :
    defaulting name absent check entries = .accepted value ↔
      (field? name entries = none ∧ absent = value) ∨
        ∃ given, field? name entries = some given ∧ check given = .accepted value := by
  rw [defaulting]
  cases field? name entries with
  | none => simp
  | some given => simp [inside_eq_accepted_iff]

theorem field?_append (name : String) (first second : List (Value × Value)) :
    field? name (first ++ second) = (field? name first).or (field? name second) := by
  induction first with
  | nil => rfl
  | cons entry first ih =>
      obtain ⟨key, given⟩ := entry
      cases key with
      | text key =>
          rw [List.cons_append, field?_text, field?_text]
          split
          · rfl
          · exact ih
      | _ => exact ih

/-- Items that are each accepted make a list that is accepted. -/
theorem checkItems_map {check : Value → Checked α} {toValue : α → Value} {items : List α}
    (each : ∀ item ∈ items, check (toValue item) = .accepted item) (number : Nat) :
    checkItems check number (items.map toValue) = .accepted items := by
  induction items generalizing number with
  | nil => rfl
  | cons item items ih =>
      have first := each item List.mem_cons_self
      have rest := ih (fun other member => each other (List.mem_cons_of_mem _ member)) (number + 1)
      rw [List.map_cons, checkItems, first, rest]
      rfl

/-- A word names what it is looked up as. -/
theorem name_of_lookup {names : α → String} {items : List α} {word : String}
    (found : (items.map fun item => (names item, item)).lookup word = some value) :
    names value = word := by
  induction items with
  | nil => contradiction
  | cons item items ih =>
      rw [List.map_cons, List.lookup_cons] at found
      split at found
      · next same =>
          cases found
          exact (eq_of_beq same).symm
      · exact ih found

@[simp] theorem pathOf_toString (path : Path) : pathOf (.text path.toString) = .accepted path := by
  rw [pathOf, Path.ofString_toString]

theorem optional_optionalText {check : Value → Checked α} {toText : α → String}
    (each : ∀ item, check (.text (toText item)) = .accepted item) (given : Option α) :
    optional check (optionalText (given.map toText)) = .accepted given := by
  cases given with
  | none => rfl
  | some item =>
      change (check (.text (toText item))).map some = _
      rw [each]
      rfl

end Value

end Enhance
