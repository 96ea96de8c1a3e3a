import Enhance.Transformer.Import

/-!
# How following a reference ends

A module is imported if it is known.  Otherwise the import goes back through the beginnings of its name until
there is nothing before or a module that is known, and gets stuck there (`Modules.StuckAt`): what is looked
for next is not there, its code fails, or it cannot be there.  A reference leads to an attribute of a module
(`Modules.follow_eq_ok_iff`); otherwise something is absent, unless the name of the module makes no sense or
its code fails in some other way (`Modules.trips_iff`).
-/

namespace Enhance

open Enhance.Text

namespace Modules

variable {modules : Modules} {parts reached : List (List Char)} {found : Module} {broken : BrokenModule}
  {error : ImportError} {moduleName member : List Char} {target : Object}

theorem dotted_reverse_pieces (text : List Char) :
    dotted (pieces '.' text).reverse = String.ofList text := by
  rw [dotted, List.reverse_reverse, joined_pieces]

/-! ## Importing a module -/

/-- The beginning of a name at which an import gets stuck, both given last part first: neither it nor a
longer one is known, and nothing or a package comes before it. -/
structure StuckAt (modules : Modules) (parts reached : List (List Char)) : Prop where
  nonempty : reached ≠ []
  begins : reached <:+ parts
  unknown : ∀ longer, reached <:+ longer → longer <:+ parts → modules.known? (dotted longer) = none
  entered : reached.tail = [] ∨
    ∃ parent, modules.known? (dotted reached.tail) = some parent ∧ parent.isPackage = true

namespace StuckAt

/-- Where a shorter name gets stuck, a longer one does that is not known. -/
theorem cons {part : List Char} (stuck : modules.StuckAt parts reached)
    (unknown : modules.known? (dotted (part :: parts)) = none) :
    modules.StuckAt (part :: parts) reached where
  nonempty := stuck.nonempty
  begins := stuck.begins.trans (List.suffix_cons part parts)
  unknown := by
    intro longer ends begins
    rcases List.suffix_cons_iff.1 begins with rfl | shorter
    · exact unknown
    · exact stuck.unknown longer ends shorter
  entered := stuck.entered

end StuckAt

theorem find_of_known (nonempty : parts ≠ []) (known : modules.known? (dotted parts) = some found) :
    modules.find parts = .ok found := by
  cases parts with
  | nil => exact absurd rfl nonempty
  | cons part outer => simp only [find, known]

/-- An import of what is not known goes back to the name without its last part. -/
theorem find_of_unknown {part : List Char}
    (unknown : modules.known? (dotted (part :: parts)) = none) :
    modules.find (part :: parts) =
      if parts = [] then .error (modules.search (dotted (part :: parts)))
      else (modules.find parts).bind fun parent =>
        if parent.isPackage then .error (modules.search (dotted (part :: parts)))
        else .error (.notAPackage (dotted (part :: parts)) parent.name) := by
  rw [find, unknown]
  cases modules.find parts <;> rfl

/-- What is looked for where an import gets stuck decides how it ends. -/
theorem find_of_stuckAt (stuck : modules.StuckAt parts reached) :
    modules.find parts = .error (modules.search (dotted reached)) := by
  induction parts with
  | nil => exact absurd (List.suffix_nil.1 stuck.begins) stuck.nonempty
  | cons part outer ih =>
      have unknown := stuck.unknown _ stuck.begins List.suffix_rfl
      rw [find_of_unknown unknown]
      rcases List.suffix_cons_iff.1 stuck.begins with rfl | shorter
      · by_cases last : outer = []
        · rw [if_pos last]
        · rcases stuck.entered with first | ⟨parent, known, package⟩
          · exact absurd first last
          · rw [if_neg last, find_of_known last known]
            exact if_pos package
      · have inner : modules.StuckAt outer reached :=
          { nonempty := stuck.nonempty
            begins := shorter
            unknown := fun longer ends begins =>
              stuck.unknown longer ends (begins.trans (List.suffix_cons part outer))
            entered := stuck.entered }
        have last : outer ≠ [] := by
          intro last
          rw [last] at shorter
          exact stuck.nonempty (List.suffix_nil.1 shorter)
        rw [if_neg last]
        exact congrArg (Except.bind · _) (ih inner)

/-- How the import of a module ends. -/
inductive Ends (modules : Modules) (parts : List (List Char)) : Except ImportError Module → Prop where
  | known {found : Module} (known : modules.known? (dotted parts) = some found) :
      Ends modules parts (.ok found)
  | stuck {reached : List (List Char)} (stuck : modules.StuckAt parts reached) :
      Ends modules parts (.error (modules.search (dotted reached)))
  /-- A module comes before that has no others inside. -/
  | closed (name parent : String) : Ends modules parts (.error (.notAPackage name parent))

theorem find_ends (nonempty : parts ≠ []) : modules.Ends parts (modules.find parts) := by
  induction parts with
  | nil => exact absurd rfl nonempty
  | cons part outer ih =>
      cases known : modules.known? (dotted (part :: outer)) with
      | some found =>
          rw [find_of_known nonempty known]
          exact .known known
      | none =>
          have here (entered : outer = [] ∨
              ∃ parent, modules.known? (dotted outer) = some parent ∧ parent.isPackage = true) :
              modules.StuckAt (part :: outer) (part :: outer) :=
            { nonempty
              begins := List.suffix_rfl
              unknown := by
                intro longer ends begins
                rw [begins.eq_of_length_le ends.length_le]
                exact known
              entered }
          rw [find_of_unknown known]
          by_cases last : outer = []
          · rw [if_pos last]
            exact .stuck (here (.inl last))
          · rw [if_neg last]
            have outerEnds := ih last
            generalize modules.find outer = result at outerEnds ⊢
            cases outerEnds with
            | @known parent parentKnown =>
                cases package : parent.isPackage with
                | true =>
                    simp only [Except.bind, package, ↓reduceIte]
                    exact .stuck (here (.inr ⟨parent, parentKnown, package⟩))
                | false =>
                    simp only [Except.bind, package, Bool.false_eq_true, ↓reduceIte]
                    exact .closed _ _
            | stuck stuck => exact .stuck (stuck.cons known)
            | closed name parent => exact .closed name parent

/-- What is imported is known under its name. -/
theorem find_eq_ok_iff (nonempty : parts ≠ []) :
    modules.find parts = .ok found ↔ modules.known? (dotted parts) = some found := by
  constructor
  · intro finds
    have ends : modules.Ends parts (modules.find parts) := find_ends nonempty
    rw [finds] at ends
    cases ends with
    | known known => exact known
  · exact find_of_known nonempty

/-- A search says something else than that a module is not there if there is one whose code fails so. -/
theorem meansAbsent_search_eq_false_iff {name : String} :
    error = modules.search name ∧ error.meansAbsent = false ↔
      ∃ broken, modules.broken.find? (·.name = name) = some broken ∧ broken.lacksSomething = false ∧
        error = .broken broken.failure false := by
  unfold search
  cases modules.broken.find? (·.name = name) with
  | none => simp +contextual [ImportError.meansAbsent]
  | some broken =>
      constructor
      · rintro ⟨rfl, otherwise⟩
        exact ⟨broken, rfl, otherwise, congrArg _ otherwise⟩
      · rintro ⟨_, ⟨⟩, otherwise, rfl⟩
        exact ⟨congrArg _ otherwise.symm, rfl⟩

/-- An import fails with something else than that a thing is not there where code fails so. -/
theorem exists_stuckAt_of_find (nonempty : parts ≠ []) (fails : modules.find parts = .error error)
    (otherwise : error.meansAbsent = false) :
    ∃ reached broken, modules.StuckAt parts reached ∧
      modules.broken.find? (·.name = dotted reached) = some broken ∧ broken.lacksSomething = false ∧
      error = .broken broken.failure false := by
  have ends : modules.Ends parts (modules.find parts) := find_ends nonempty
  rw [fails] at ends
  cases ends with
  | stuck stuck =>
      obtain ⟨broken, isBroken, lacks, same⟩ := meansAbsent_search_eq_false_iff.1 ⟨rfl, otherwise⟩
      exact ⟨_, broken, stuck, isBroken, lacks, same⟩
  | closed => cases otherwise

/-! ## Following a reference -/

/-- Whether a name of a module says where to look for it from the top on. -/
def IsAbsolute (moduleName : List Char) : Prop :=
  moduleName ≠ [] ∧ moduleName.head? ≠ some '.'

/-- Whether importing a module runs code that fails, which may be that of a package on the way. -/
def Breaks (modules : Modules) (moduleName : List Char) (broken : BrokenModule) : Prop :=
  ∃ reached, modules.StuckAt (pieces '.' moduleName).reverse reached ∧
    modules.broken.find? (·.name = dotted reached) = some broken

/-- How following a reference fails with something else than that a thing is not there. -/
inductive Trips (modules : Modules) : List Char → ImportError → Prop where
  | nameless : Trips modules [] .emptyName
  | relative {moduleName : List Char} (isRelative : moduleName.head? = some '.') :
      Trips modules moduleName (.relativeName (String.ofList moduleName))
  | broken {moduleName : List Char} {broken : BrokenModule} (isAbsolute : IsAbsolute moduleName)
      (breaks : modules.Breaks moduleName broken) (otherwise : broken.lacksSomething = false) :
      Trips modules moduleName (.broken broken.failure false)

theorem follow_of_relative (isRelative : moduleName.head? = some '.') :
    modules.follow moduleName member = .error (.relativeName (String.ofList moduleName)) := by
  rw [follow, if_pos isRelative]
  rfl

theorem follow_nil : modules.follow [] member = .error .emptyName := rfl

theorem follow_of_isAbsolute (isAbsolute : IsAbsolute moduleName) :
    modules.follow moduleName member =
      (modules.find (pieces '.' moduleName).reverse).bind fun found =>
        match found.attribute? (String.ofList member) with
        | some object => .ok object
        | none => .error (.noAttribute found.name (String.ofList member)) := by
  rw [follow, if_neg isAbsolute.2, if_neg isAbsolute.1]
  rfl

/-- A reference leads to an attribute of a known module. -/
theorem follow_eq_ok_iff :
    modules.follow moduleName member = .ok target ↔ IsAbsolute moduleName ∧
      ∃ found, modules.known? (String.ofList moduleName) = some found ∧
        found.attribute? (String.ofList member) = some target := by
  constructor
  · intro leads
    have isAbsolute : IsAbsolute moduleName := by
      constructor
      · rintro rfl
        cases leads
      · intro isRelative
        rw [follow_of_relative isRelative] at leads
        cases leads
    rw [follow_of_isAbsolute isAbsolute] at leads
    cases search : modules.find (pieces '.' moduleName).reverse with
    | error error =>
        rw [search] at leads
        cases leads
    | ok found =>
        have known := (find_eq_ok_iff (by simp [pieces_ne_nil])).1 search
        rw [dotted_reverse_pieces] at known
        refine ⟨isAbsolute, found, known, ?_⟩
        simp only [search, Except.bind] at leads
        split at leads
        next other isAttribute =>
          cases leads
          exact isAttribute
        next => cases leads
  · rintro ⟨isAbsolute, found, known, isAttribute⟩
    rw [← dotted_reverse_pieces] at known
    rw [follow_of_isAbsolute isAbsolute, find_of_known (by simp [pieces_ne_nil]) known]
    simp only [Except.bind, isAttribute]

/-- Following a reference fails with something else than that a thing is not there only in these ways. -/
theorem trips_iff :
    modules.Trips moduleName error ↔
      modules.follow moduleName member = .error error ∧ error.meansAbsent = false := by
  constructor
  · rintro (_ | isRelative | ⟨isAbsolute, ⟨reached, stuck, isBroken⟩, otherwise⟩)
    · exact ⟨follow_nil, rfl⟩
    · exact ⟨follow_of_relative isRelative, rfl⟩
    · rw [follow_of_isAbsolute isAbsolute, find_of_stuckAt stuck, search, isBroken]
      exact ⟨congrArg (fun lacks => Except.error (ImportError.broken _ lacks)) otherwise, rfl⟩
  · rintro ⟨fails, otherwise⟩
    by_cases nameless : moduleName = []
    · subst nameless
      cases fails
      exact .nameless
    · by_cases isRelative : moduleName.head? = some '.'
      · rw [follow_of_relative isRelative] at fails
        cases fails
        exact .relative isRelative
      · have isAbsolute : IsAbsolute moduleName := ⟨nameless, isRelative⟩
        rw [follow_of_isAbsolute isAbsolute] at fails
        cases search : modules.find (pieces '.' moduleName).reverse with
        | ok found =>
            simp only [search, Except.bind] at fails
            split at fails
            next => cases fails
            next =>
              cases fails
              cases otherwise
        | error _ =>
            rw [search] at fails
            cases fails
            obtain ⟨reached, broken, stuck, isBroken, lacks, rfl⟩ :=
              exists_stuckAt_of_find (by simp [pieces_ne_nil]) search otherwise
            exact .broken isAbsolute ⟨reached, stuck, isBroken⟩ lacks

end Modules

end Enhance
