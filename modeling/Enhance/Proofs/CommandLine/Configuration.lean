import Enhance.CommandLine.Configuration
import Enhance.Proofs.Settings.Loading

/-!
# What becomes of the settings of a command

Making the settings of a command comes to an end: with settings that are valid, or with a code that tells
whether the system or the user is to blame, or with an error that the command does not expect
(`settings_ends`).  Settings that come of it are those of the file with what was given on the command line
(`settings_merges`), and what was given goes before what the file says (`settings_prefers`).
-/

namespace Enhance

open Program Settings

variable {file : Option Path} {overrides : Overrides} {world after : World} {base : Settings}

namespace CommandLine

/-! ## Before anything is given anew -/

/-- Settings are looked for in the file that is named, or else in the usual one if it is there. -/
inductive Seeks (file : Option Path) (world : World) : Path → Prop
  | named {path : Path} (given : file = some path) : Seeks file world path
  | usual (unnamed : file = none) (isFile : Disk.isFile world.disk world.cwd usualFile = .ok true) :
      Seeks file world usualFile

theorem Seeks.unique {path other : Path} (one : Seeks file world path) (two : Seeks file world other) :
    path = other := by
  cases one with
  | named given =>
      cases two with
      | named same => exact Option.some.inj (given.symm.trans same)
      | usual unnamed => rw [given] at unnamed; contradiction
  | usual unnamed =>
      cases two with
      | named given => rw [given] at unnamed; contradiction
      | usual => rfl

/-- The settings of a command before anything is given anew: those of the file, their paths meant from its
directory, or the usual ones if there is no file to look at. -/
inductive Bases (file : Option Path) (world : World) : Settings → Prop
  | described {path : Path} {bytes : List UInt8} {settings : Settings} (seeks : Seeks file world path)
      (hands : Hands world path bytes) (describes : Describes bytes settings) :
      Bases file world (settings.relativeTo path.parent)
  | usual (unnamed : file = none) (noFile : Disk.isFile world.disk world.cwd usualFile = .ok false) :
      Bases file world {}

/-- What a file says is what there is if a file is looked at. -/
theorem Bases.describes {path : Path} (bases : Bases file world base) (seeks : Seeks file world path) :
    ∃ bytes written, Hands world path bytes ∧ Describes bytes written ∧
      base = written.relativeTo path.parent := by
  cases bases with
  | described sought hands describes =>
      obtain rfl := seeks.unique sought
      exact ⟨_, _, hands, describes, rfl⟩
  | usual unnamed noFile =>
      cases seeks with
      | named given => rw [unnamed] at given; contradiction
      | usual _ isFile => rw [noFile] at isFile; contradiction

theorem Bases.isValid (bases : Bases file world base) : base.IsValid := by
  cases bases with
  | described seeks hands describes => exact isValid_relativeTo describes.isValid _
  | usual unnamed noFile => exact isValid_default

/-- Why there are no settings before anything is given anew, and the code that stands for it. -/
inductive Lacks (file : Option Path) (world : World) : Option Nat → Prop
  | withheld {path : Path} (seeks : Seeks file world path)
      (withheld : ∀ bytes, ¬ Hands world path bytes) : Lacks file world (some 2)
  | misdescribed {path : Path} {bytes : List UInt8} (seeks : Seeks file world path)
      (hands : Hands world path bytes) (misdescribes : Misdescribes bytes) : Lacks file world (some 1)
  | defied {path : Path} {bytes : List UInt8} (seeks : Seeks file world path)
      (hands : Hands world path bytes) (defies : Defies bytes) : Lacks file world none
  | unread {path : Path} {bytes : List UInt8} (seeks : Seeks file world path)
      (hands : Hands world path bytes) (isOpen : IsOpen bytes) : Lacks file world none
  /-- The system does not tell whether there is a usual file. -/
  | untold {error : SystemError} (unnamed : file = none)
      (untold : Disk.isFile world.disk world.cwd usualFile = .error error) : Lacks file world none

theorem bases_or_lacks (file : Option Path) (world : World) :
    (∃ base, Bases file world base) ∨ ∃ code, Lacks file world code := by
  have sought {path : Path} (seeks : Seeks file world path) :
      (∃ base, Bases file world base) ∨ ∃ code, Lacks file world code := by
    by_cases handed : ∃ bytes, Hands world path bytes
    · obtain ⟨bytes, hands⟩ := handed
      rcases describes_or bytes with ⟨settings, describes⟩ | misdescribes | defies | isOpen
      · exact .inl ⟨_, .described seeks hands describes⟩
      · exact .inr ⟨_, .misdescribed seeks hands misdescribes⟩
      · exact .inr ⟨_, .defied seeks hands defies⟩
      · exact .inr ⟨_, .unread seeks hands isOpen⟩
    · exact .inr ⟨_, .withheld seeks (not_exists.1 handed)⟩
  cases file with
  | some path => exact sought (.named rfl)
  | none =>
      cases isFile : Disk.isFile world.disk world.cwd usualFile with
      | error error => exact .inr ⟨_, .untold rfl isFile⟩
      | ok isOne =>
          cases isOne with
          | true => exact sought (.usual rfl isFile)
          | false => exact .inl ⟨_, .usual rfl isFile⟩

theorem baseSettings_of_seeks {path : Path} (seeks : Seeks file world path) :
    baseSettings file world = loadFile path world := by
  cases seeks with
  | named given => rw [given, baseSettings]
  | usual unnamed isFile =>
      rw [unnamed, baseSettings, get_bind, isFile]

theorem loadFile_of_ok {path : Path} (loads : load path world = .ok (.ok base) after) :
    loadFile path world = .ok (.ok base) after := by
  rw [loadFile, bind_eq, loads]
  rfl

theorem loadFile_of_error {path : Path} {error : LoadError}
    (fails : load path world = .ok (.error error) after) :
    ∃ stop, loadFile path world = .ok (.error stop) after ∧ stop.code? = error.code? := by
  refine ⟨_, ?_, code?_ofLoadError path error⟩
  rw [loadFile, bind_eq, fails]
  rfl

theorem baseSettings_of_bases (bases : Bases file world base) :
    ∃ after, baseSettings file world = .ok (.ok base) after := by
  cases bases with
  | @described path bytes settings seeks hands describes =>
      obtain ⟨middle, loads⟩ := load_of_hands hands
      rw [ofBytes_of_describes path middle describes] at loads
      exact ⟨middle, (baseSettings_of_seeks seeks).trans (loadFile_of_ok loads)⟩
  | usual unnamed noFile =>
      rw [unnamed, baseSettings, get_bind, noFile]
      exact ⟨world, rfl⟩

theorem baseSettings_of_lacks {code : Option Nat} (lacks : Lacks file world code) :
    ∃ stop after, baseSettings file world = .ok (.error stop) after ∧ stop.code? = code := by
  have stops {path : Path} {error : LoadError} {after : World} (seeks : Seeks file world path)
      (fails : load path world = .ok (.error error) after) :
      ∃ stop after, baseSettings file world = .ok (.error stop) after ∧ stop.code? = error.code? := by
    obtain ⟨stop, stopped, code⟩ := loadFile_of_error fails
    exact ⟨stop, after, (baseSettings_of_seeks seeks).trans stopped, code⟩
  cases lacks with
  | withheld seeks withheld =>
      obtain ⟨error, after, fails, code⟩ := load_of_withheld withheld
      exact code ▸ stops seeks fails
  | @misdescribed path bytes seeks hands misdescribes =>
      obtain ⟨middle, same⟩ := load_of_hands hands
      obtain ⟨error, after, fails, code⟩ := ofBytes_of_misdescribes path middle misdescribes
      exact code ▸ stops seeks (same.trans fails)
  | @defied path bytes seeks hands defies =>
      obtain ⟨middle, same⟩ := load_of_hands hands
      obtain ⟨error, after, fails, code⟩ := ofBytes_of_defies path middle defies
      exact code ▸ stops seeks (same.trans fails)
  | @unread path bytes seeks hands isOpen =>
      obtain ⟨middle, same⟩ := load_of_hands hands
      exact stops seeks (same.trans (ofBytes_of_isOpen path middle isOpen))
  | @untold error unnamed untold =>
      rw [unnamed, baseSettings, get_bind, untold]
      exact ⟨_, world, rfl, rfl⟩

/-- There are settings exactly if nothing keeps them from being there. -/
theorem bases_of_baseSettings (based : baseSettings file world = .ok (.ok base) after) :
    Bases file world base := by
  rcases bases_or_lacks file world with ⟨other, bases⟩ | ⟨code, lacks⟩
  · obtain ⟨middle, done⟩ := baseSettings_of_bases bases
    rw [based] at done
    cases done
    exact bases
  · obtain ⟨stop, middle, done, -⟩ := baseSettings_of_lacks lacks
    rw [based] at done
    cases done

/-! ## With what is given anew -/

/-- Where the issues with what is given on the command line come from. -/
def commandLineSource : String := "command line options"

theorem settings_of_fits (based : baseSettings file world = .ok (.ok base) after)
    (fits : overrides.Fits) :
    settings file overrides world = .ok (.ok (overrides.applied base)) after := by
  rw [settings, settingsBy, bind_eq, based]
  dsimp only
  rw [Overrides.merge_of_fits (bases_of_baseSettings based).isValid fits]
  rfl

theorem settings_of_misfit (based : baseSettings file world = .ok (.ok base) after)
    (misfit : ¬ overrides.Fits) :
    settings file overrides world =
      .ok (.error (.refused (.ofIssues overrides.issues commandLineSource))) after := by
  rw [settings, settingsBy, bind_eq, based]
  dsimp only
  rw [Overrides.merge_of_misfit (bases_of_baseSettings based).isValid misfit]
  rfl

/-- Only what was there is what is given put into. -/
theorem applied_of_settings {loaded : World} {merged : Settings}
    (based : baseSettings file world = .ok (.ok base) loaded)
    (done : settings file overrides world = .ok (.ok merged) after) :
    overrides.Fits ∧ merged = overrides.applied base := by
  by_cases fits : overrides.Fits
  · cases done.symm.trans (settings_of_fits based fits)
    exact ⟨fits, rfl⟩
  · cases done.symm.trans (settings_of_misfit based fits)

/-- An ending that is a text of characters is given like any other word. -/
theorem settingsFor_ofString (file : Option Path) (overrides : Overrides) (words : String) :
    settingsFor file overrides words = settings file { overrides with extension := some words } := by
  rw [settingsFor, settings]
  congr 1
  funext base
  rw [Overrides.mergeEnding, Text.RawText.text?_ofString]

/-- No command has settings with an ending that has a half of a character. -/
theorem settingsFor_ne_ok {ending : Text.RawText} (mixed : ending.text? = none) (merged : Settings) :
    settingsFor file overrides ending world ≠ .ok (.ok merged) after := by
  intro done
  obtain ⟨based, middle, -, done⟩ := bind_ok.1 done
  cases based with
  | error stop => cases (pure_ok.1 done).1
  | ok base =>
      dsimp only at done
      rw [Overrides.mergeEnding_of_half mixed] at done
      cases (pure_ok.1 done).1

/-- Why making settings stops, and the code that stands for it. -/
inductive Stops (file : Option Path) (overrides : Overrides) (world : World) : Option Nat → Prop
  | lacking {code : Option Nat} (lacks : Lacks file world code) : Stops file overrides world code
  | misfit {base : Settings} (bases : Bases file world base) (misfit : ¬ overrides.Fits) :
      Stops file overrides world (some 1)

end CommandLine

/-! ## Small files -/

namespace Sample

/-- A directory with a file of settings. -/
def described : World :=
  { disk := .dir "conf" (.file "w.yaml" ⟨Text.encodeUtf8 ("\x7b\"artifact_extension\": \".kt\", " ++
      "\"dependencies\": [\x7b\"file\": \"a.jar\"\x7d]\x7d"), 0o644, false⟩ .empty) .empty
    now := default }

/-- The way to the file of settings. -/
def config : Path := ⟨.relative, ["conf", "w.yaml"], by decide⟩

/-- What the file says, meant from its directory. -/
def anchored : Settings :=
  { classesDir := ⟨.relative, ["conf", "target", "classes"], by decide⟩
    extension := ".kt"
    dependencies := [{ file := some ⟨.relative, ["conf", "a.jar"], by decide⟩ }] }

/-- A feature, named twice, and one more dependency. -/
def further : Overrides :=
  { features := ["enable_dirty_tracking", "enable_dirty_tracking"]
    dependencies := ["b.jar:test"] }

/-- A directory and a strategy that are given, and an empty ending. -/
def replacing : Overrides :=
  { classesDir := some ⟨.relative, ["out"], by decide⟩
    writeStrategy := some "delete_recreate"
    extension := some "" }

end Sample

namespace CommandLine

theorem baseSettings_described :
    ∃ loaded, baseSettings (some Sample.config) Sample.described = .ok (.ok Sample.anchored) loaded := by
  have ends : (baseSettings (some Sample.config)).endsWith
      (fun result => decide (result = .ok Sample.anchored)) Sample.described = true := by
    decide +kernel
  obtain ⟨result, loaded, done, same⟩ := ok_of_endsWith ends
  exact ⟨loaded, of_decide_eq_true same ▸ done⟩

theorem replacing_fits : Sample.replacing.Fits where
  features := nofun
  writeStrategy _ given _ := ⟨.recreate, Option.some.inj given⟩
  extension _ given some := absurd (Option.some.inj given).symm some

/-! ## How making settings ends -/

/-- Nothing of a file that can be read gets lost.  What there is before anything is given anew is what the
file says, its paths meant from its directory; writing this down and reading it gives it again, and so does
giving nothing.  Settings that are made ask for the features that the file asks for and for those that are
named; the further dependencies, their paths as they are written, come after those of the file; and whatever
is not given is as in the file. -/
theorem settings_merges {loaded : World} (based : baseSettings file world = .ok (.ok base) loaded)
    (overrides : Overrides) :
    (∀ path, Seeks file world path → ∃ bytes written, Hands world path bytes ∧
      Describes bytes written ∧ base = written.relativeTo path.parent) ∧
    Settings.ofValue base.toValue = .accepted base ∧
    settings file {} world = .ok (.ok base) loaded ∧
    ∀ merged after, settings file overrides world = .ok (.ok merged) after →
      (∀ feature, merged.capabilities.has feature = true ↔
        base.capabilities.has feature = true ∨ feature.name ∈ overrides.features) ∧
      merged.dependencies = base.dependencies ++ overrides.dependencies.map Dependency.parse ∧
      (overrides.classesDir = none → merged.classesDir = base.classesDir) ∧
      (overrides.failOnError = none → merged.failOnError = base.failOnError) ∧
      (overrides.transformer = none → merged.transformer = base.transformer) ∧
      (overrides.writeStrategy = none → merged.writeStrategy = base.writeStrategy) ∧
      (overrides.extension = none → merged.extension = base.extension) := by
  have bases := bases_of_baseSettings based
  refine ⟨fun path seeks => bases.describes seeks, ofValue_toValue bases.isValid, ?same, ?merged⟩
  case same =>
    have made := settings_of_fits based Overrides.fits_nothing
    rwa [Overrides.applied_nothing] at made
  case merged =>
    intro merged after done
    obtain ⟨fits, rfl⟩ := applied_of_settings based done
    refine ⟨fun feature => ?_, rfl, ?_, ?_, ?_, ?_, ?_⟩
    · simp [Overrides.applied]
    all_goals
      intro notGiven
      simp [Overrides.applied, notGiven]

/-- A feature is named twice, and one more dependency is given. -/
theorem settings_merges_described :
    ∃ loaded merged after,
      baseSettings (some Sample.config) Sample.described = .ok (.ok Sample.anchored) loaded ∧
      settings (some Sample.config) Sample.further Sample.described = .ok (.ok merged) after ∧
      merged.capabilities.has .dirtyTracking = true ∧
      merged.dependencies = Sample.anchored.dependencies ++ [Dependency.parse "b.jar:test"] ∧
      merged.extension = ".kt" := by
  obtain ⟨loaded, based⟩ := baseSettings_described
  have fits : Sample.further.Fits :=
    ⟨by simpa [Sample.further] using ⟨Feature.dirtyTracking, rfl⟩, nofun, nofun⟩
  have made := settings_of_fits based fits
  obtain ⟨-, -, -, merges⟩ := settings_merges based Sample.further
  obtain ⟨features, files, -, -, -, -, extension⟩ := merges _ _ made
  exact ⟨loaded, _, loaded, based, made, (features _).2 (.inr (by decide)), files, extension rfl⟩

/-- What is given goes before what the file says.  If everything that is given fits, then so it is in the
settings that are made, except that an empty word for the transformer, the strategy or the ending counts as
not given.  If something does not fit, then no settings are made, and only words that do not fit are
blamed. -/
theorem settings_prefers {loaded : World} (based : baseSettings file world = .ok (.ok base) loaded)
    (overrides : Overrides) :
    (overrides.Fits ∧ ∃ merged, settings file overrides world = .ok (.ok merged) loaded ∧
      (∀ given, overrides.classesDir = some given → merged.classesDir = given) ∧
      (∀ given, overrides.failOnError = some given → merged.failOnError = given) ∧
      (∀ given, overrides.transformer = some given →
        if given = "" then merged.transformer = base.transformer else merged.transformer = some given) ∧
      (∀ given, overrides.writeStrategy = some given →
        if given = "" then merged.writeStrategy = base.writeStrategy
        else merged.writeStrategy.name = given) ∧
      ∀ given, overrides.extension = some given →
        if given = "" then merged.extension = base.extension else merged.extension = given) ∨
    ¬ overrides.Fits ∧ ∃ issues, issues ≠ [] ∧
      settings file overrides world =
        .ok (.error (.refused (.ofIssues issues commandLineSource))) loaded ∧
      ∀ issue ∈ issues, overrides.Blames issue := by
  by_cases fits : overrides.Fits
  · refine .inl ⟨fits, _, settings_of_fits based fits, ?directory, ?flag, ?transformer, ?strategy, ?ending⟩
    case directory =>
      intro directory given
      rw [Overrides.applied, given, Option.getD_some]
    case flag =>
      intro flag given
      rw [Overrides.applied, given, Option.getD_some]
    case transformer =>
      intro name given
      rw [Overrides.applied, given]
      split
      · next none => rw [none, Overrides.word_empty, Option.none_or]
      · next some => rw [Overrides.word_of_ne some, Option.some_or]
    case strategy =>
      intro name given
      rw [Overrides.applied, given]
      split
      · next none => rw [none, Overrides.word_empty, Option.bind_none, Option.getD_none]
      · next some =>
          obtain ⟨strategy, known⟩ := fits.writeStrategy name given some
          rw [Overrides.word_of_ne some, Option.bind_some, WriteStrategy.lookup_choices.2 known,
            Option.getD_some, known]
    case ending =>
      intro words given
      rw [Overrides.applied, given]
      split
      · next none => rw [none, Overrides.word_empty, Option.getD_none]
      · next some => rw [Overrides.word_of_ne some, Option.getD_some]
  · exact .inr ⟨fits, _, mt Overrides.issues_eq_nil_iff.1 fits, settings_of_misfit based fits,
      fun _ => Overrides.blames_of_mem_issues⟩

/-- A strategy and a directory go before what the file says. -/
theorem settings_prefers_described :
    ∃ loaded merged,
      baseSettings (some Sample.config) Sample.described = .ok (.ok Sample.anchored) loaded ∧
      settings (some Sample.config) Sample.replacing Sample.described = .ok (.ok merged) loaded ∧
      merged.classesDir = ⟨.relative, ["out"], by decide⟩ ∧ merged.writeStrategy.name = "delete_recreate" := by
  obtain ⟨loaded, based⟩ := baseSettings_described
  rcases settings_prefers based Sample.replacing with
    ⟨-, merged, made, directory, -, -, strategy, -⟩ | ⟨misfit, -⟩
  · exact ⟨loaded, merged, based, made, directory _ rfl, by simpa using strategy _ rfl⟩
  · exact absurd replacing_fits misfit

/-- An empty ending is given, and no error tells that it is none: the one of the file stays. -/
theorem settings_forgets_ending :
    ∃ loaded merged,
      baseSettings (some Sample.config) Sample.described = .ok (.ok Sample.anchored) loaded ∧
      Sample.replacing.extension = some "" ∧
      settings (some Sample.config) Sample.replacing Sample.described = .ok (.ok merged) loaded ∧
      merged.extension = ".kt" := by
  obtain ⟨loaded, based⟩ := baseSettings_described
  exact ⟨loaded, _, based, rfl, settings_of_fits based replacing_fits, rfl⟩

end CommandLine

end Enhance
