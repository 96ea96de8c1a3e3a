import Enhance.Dependency
import Enhance.Path.Text
import Enhance.Text.LowerCase

/-!
# The texts of dependencies

The text of a dependency is a path, behind which a colon and the name of a scope may stand, in letters of
any case (`Dependency.Scoped`).  Whether a text is meant so is settled by the last colon alone, so that paths
may hold colons and may even end like a scope, and every dependency without coordinates has a text
(`Dependency.parse_reads`).
-/

namespace Enhance

open Enhance.Text

namespace Scope

/-- No letter of the name of a scope is the small form of a character outside ASCII. -/
theorem isPlain_of_mem_name (scope : Scope) : ∀ c ∈ scope.name.toList, isPlain c = true :=
  List.all_eq_true.1 (by cases scope <;> decide)

theorem ofName?_eq_some_iff {words : String} {scope : Scope} :
    ofName? words = some scope ↔ words = scope.name := by
  constructor
  · intro found
    have same := List.find?_some found
    simpa using Eq.symm (of_decide_eq_true same)
  · intro same
    rw [same, ofName?_name]

theorem lowers_name_iff {word : List Char} {scope : Scope} :
    Lowers word scope.name.toList ↔ String.ofList (word.map Char.toLower) = scope.name := by
  rw [lowers_iff_of_plain scope.isPlain_of_mem_name, ← String.toList_inj, String.toList_ofList]

theorem colon_notMem_of_lowers {word : List Char} {scope : Scope}
    (lowers : Lowers word scope.name.toList) : ':' ∉ word := by
  apply notMem_of_lowers lowers scope.isPlain_of_mem_name (by decide)
  cases scope <;> decide

end Scope

/-- Even the working directory has a text. -/
theorem Path.toString_ne_empty (path : Path) : path.toString ≠ "" := by
  intro empty
  have same : path = .ofString "" := by rw [← empty, Path.ofString_toString]
  rw [same] at empty
  revert empty
  decide +kernel

namespace Dependency

variable {text front : String} {scope : Scope}

theorem scopeOfWord?_eq_some_iff {word : List Char} :
    scopeOfWord? word = some scope ↔ Lowers word scope.name.toList := by
  rw [scopeOfWord?, Scope.ofName?_eq_some_iff, Scope.lowers_name_iff]

/-- A text that writes something, a colon and the name of a scope in letters of any case. -/
def Scoped (text front : String) (scope : Scope) : Prop :=
  front ≠ "" ∧ ∃ word : String, text = front ++ ":" ++ word ∧ ':' ∉ word.toList ∧
    Lowers word.toList scope.name.toList

/-- What stands behind the last colon decides. -/
theorem scoped_iff :
    Scoped text front scope ↔ front ≠ "" ∧
      ∃ word, splitLast ':' text.toList = some (front.toList, word) ∧
        Lowers word scope.name.toList := by
  constructor
  · rintro ⟨something, word, rfl, free, lowers⟩
    refine ⟨something, word.toList, ?_, lowers⟩
    rw [splitLast_eq_some_iff]
    exact ⟨by simp, free⟩
  · rintro ⟨something, word, cut, lowers⟩
    obtain ⟨same, free⟩ := splitLast_eq_some_iff.1 cut
    refine ⟨something, String.ofList word, ?_, ?_, ?_⟩
    · rw [← String.toList_inj]
      simpa using same
    · rwa [String.toList_ofList]
    · rwa [String.toList_ofList]

theorem parse_of_scoped (isScoped : Scoped text front scope) :
    parse text = { file := some (.ofString front), scope } := by
  obtain ⟨something, word, cut, lowers⟩ := scoped_iff.1 isScoped
  have named := scopeOfWord?_eq_some_iff.2 lowers
  cases shown : front.toList with
  | nil => exact absurd (String.toList_eq_nil_iff.1 shown) something
  | cons c rest =>
      rw [shown] at cut
      simp only [parse, cut, named]
      rw [← shown, String.ofList_toList]

theorem parse_of_unscoped (bare : ∀ front scope, ¬ Scoped text front scope) :
    parse text = { file := some (.ofString text), scope := .compile } := by
  cases cut : splitLast ':' text.toList with
  | none => simp only [parse, cut]
  | some parts =>
      obtain ⟨front, word⟩ := parts
      cases front with
      | nil => simp only [parse, cut]
      | cons c rest =>
          cases named : scopeOfWord? word with
          | none => simp only [parse, cut, named]
          | some scope =>
              have isScoped : Scoped text (String.ofList (c :: rest)) scope := by
                rw [scoped_iff, String.toList_ofList]
                exact ⟨by simp, word, cut, scopeOfWord?_eq_some_iff.1 named⟩
              exact absurd isScoped (bare _ _)

/-- The text of a path with a scope behind it is read with this scope. -/
theorem scoped_toString (file : Path) {word : String}
    (lowers : Lowers word.toList scope.name.toList) :
    Scoped (file.toString ++ ":" ++ word) file.toString scope :=
  ⟨file.toString_ne_empty, word, rfl, Scope.colon_notMem_of_lowers lowers, lowers⟩

/-- What a text writes has a place and no coordinates. -/
theorem exists_eq_parse (text : String) : ∃ file scope, parse text = { file := some file, scope } := by
  by_cases isScoped : ∃ front scope, Scoped text front scope
  · obtain ⟨front, scope, isScoped⟩ := isScoped
    exact ⟨_, _, parse_of_scoped isScoped⟩
  · simp only [not_exists] at isScoped
    exact ⟨_, _, parse_of_unscoped isScoped⟩

/-- Texts of dependencies are read exactly.  A text with something before its last colon and the name of a
scope behind it is a path with this scope, and every other text is a path as a whole.  So the text of a path
with the name of a scope behind it is read as just these two, whatever colons are in the path and whatever
the case of the letters, and what texts write are all the dependencies that have a place and no
coordinates. -/
theorem parse_reads :
    (∀ text front scope, Scoped text front scope →
      parse text = { file := some (.ofString front), scope, id := none }) ∧
    (∀ text, (∀ front scope, ¬ Scoped text front scope) →
      parse text = { file := some (.ofString text), scope := .compile, id := none }) ∧
    (∀ (dependency : Dependency) (file : Path) (word : String), dependency.file = some file →
      dependency.id = none → Lowers word.toList dependency.scope.name.toList →
      parse (file.toString ++ ":" ++ word) = dependency) ∧
    ∀ dependency, (∃ text, parse text = dependency) ↔
      dependency.file.isSome = true ∧ dependency.id = none := by
  have again (file : Path) (scope : Scope) (word : String)
      (lowers : Lowers word.toList scope.name.toList) :
      parse (file.toString ++ ":" ++ word) = { file := some file, scope } := by
    rw [parse_of_scoped (scoped_toString file lowers), Path.ofString_toString]
  refine ⟨fun _ _ _ => parse_of_scoped, fun _ => parse_of_unscoped, ?again, ?onto⟩
  case again =>
    intro dependency file word placed bare lowers
    obtain ⟨_, scope, _⟩ := dependency
    cases placed
    cases bare
    exact again file scope word lowers
  case onto =>
    intro dependency
    constructor
    · rintro ⟨text, rfl⟩
      obtain ⟨file, scope, same⟩ := exists_eq_parse text
      rw [same]
      exact ⟨rfl, rfl⟩
    · obtain ⟨file?, scope, id?⟩ := dependency
      rintro ⟨placed, bare⟩
      obtain ⟨file, isFile⟩ := Option.isSome_iff_exists.1 placed
      cases isFile
      cases bare
      have own : Lowers scope.name.toList scope.name.toList := by
        rw [Scope.lowers_name_iff]
        cases scope <;> decide
      exact ⟨_, again file scope scope.name own⟩

/-- A path that ends like a scope is read with the scope behind it, in letters of mixed case; a letter that
only looks like one of a scope leaves the text a path. -/
theorem parse_reads_colons :
    Scoped "C:/lib:test:PROvided" "C:/lib:test" .provided ∧
    parse "C:/lib:test:PROvided" =
      { file := some (.ofString "C:/lib:test"), scope := .provided, id := none } ∧
    (∀ front scope, ¬ Scoped "lib:TEſT" front scope) ∧
    parse "lib:TEſT" = { file := some (.ofString "lib:TEſT"), scope := .compile, id := none } ∧
    parse ((Path.ofString "lib:test").toString ++ ":" ++ "CoMpIlE") =
      { file := some (.ofString "lib:test"), scope := .compile, id := none } := by
  obtain ⟨scopes, whole, again, -⟩ := parse_reads
  have provided : Scoped "C:/lib:test:PROvided" "C:/lib:test" .provided := by
    refine ⟨by decide, "PROvided", by decide, by decide, ?_⟩
    rw [Scope.lowers_name_iff]
    decide
  have strange : ∀ front scope, ¬ Scoped "lib:TEſT" front scope := by
    intro front scope isScoped
    obtain ⟨_, word, cut, lowers⟩ := scoped_iff.1 isScoped
    have here : splitLast ':' "lib:TEſT".toList = some ("lib".toList, "TEſT".toList) := by decide
    have same : "TEſT".toList = word := congrArg Prod.snd (Option.some.inj (here.symm.trans cut))
    rw [← same, Scope.lowers_name_iff] at lowers
    revert lowers
    cases scope <;> decide
  have mixed : Lowers "CoMpIlE".toList Scope.compile.name.toList := by
    rw [Scope.lowers_name_iff]
    decide
  exact ⟨provided, scopes _ _ _ provided, strange, whole _ strange,
    again { file := some (.ofString "lib:test") } _ "CoMpIlE" rfl rfl mixed⟩

end Dependency

end Enhance
