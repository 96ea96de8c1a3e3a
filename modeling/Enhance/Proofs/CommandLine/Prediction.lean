import Enhance.CommandLine.ScanCommand
import Enhance.Proofs.CommandLine.Arguments
import Enhance.Proofs.CommandLine.Configuration
import Enhance.Proofs.CommandLine.Output
import Enhance.Proofs.Run.Scanned

/-!
# What the listing of class files foretells

The command that lists the class files below a directory tells just what the command for enhancing scans
there: joined to the directory, the names that are listed are the paths that a run with a feature scans, in
their order (`ScanCommand.run_foretells`).  Both commands look at the same files before they scan, and
nothing that the one does before makes its scan differ from that of the other (`Program.Grounded`).
-/

namespace Enhance

open Program

variable {world after : World}

/-! ## Paths below a root -/

namespace Path

/-- To go on along names is to join them. -/
theorem descend_eq_append {names : List String} (proper : ∀ name ∈ names, isName name = true)
    (path : Path) : path.descend names = path / ⟨.relative, names, proper⟩ := by
  obtain ⟨anchor, joined⟩ := @append_relative path ⟨.relative, names, proper⟩ rfl
  exact ext ((anchor_descend proper).trans anchor.symm) ((names_descend proper).trans joined.symm)

end Path

/-- What a scan of a proper tree finds leads on from its root. -/
theorem Scanner.scan_leadsOn {scanner : Scanner} (proper : world.disk.isProper = true) {root : Path}
    {artifacts : Artifacts} (done : scanner.scan root world = .ok artifacts after) :
    ∀ path ∈ artifacts.paths, ∃ rest, path.relativeTo? root = some rest := by
  intro path member
  obtain ⟨-, ⟨-, none⟩ | ⟨place, inside, rows, -, leads, found⟩⟩ := scan_ok proper done
  · simp [none] at member
  · rw [found.paths_eq] at member
    obtain ⟨row, isRow, rfl⟩ := List.mem_map.1 member
    have properInside := Listing.isProper_of_at? proper (Disk.at?_of_lookup leads)
    have named : ∀ name ∈ row, isName name = true := fun name inRow =>
      (Disk.isEntryName_iff.1 (found.isEntryName properInside isRow name inRow)).1
    rw [Path.descend_eq_append named]
    exact ⟨_, Path.relativeTo?_append rfl⟩

namespace CommandLine

namespace ScanCommand

/-! ## The listing -/

/-- The arguments that ask for the class files of a directory with an ending, as JSON. -/
def jsonArguments (directory extension : String) : List String :=
  ["--dir", directory, "--extension", extension, "--format", "json"]

/-- What these arguments give. -/
def jsonGiven (directory extension : String) : List Given :=
  [{ option := dirOption (some defaultClassesDir.toString), value := some directory },
    { option := extensionOption (some classExtension), value := some extension },
    { option := formatOption, value := some "json" }]

theorem readArguments_json (directory extension : String) :
    readArguments options false (jsonArguments directory extension) =
      .ok (jsonGiven directory extension, []) := rfl

section

variable {artifacts : Artifacts} {root : Path}
  (leadsOn : ∀ path ∈ artifacts.paths, ∃ rest, path.relativeTo? root = some rest)

include leadsOn

/-- The names that are listed are the texts of the paths from the root. -/
theorem map_some_relativeNames : (relativeNames artifacts root).map some =
    artifacts.paths.map fun path => (path.relativeTo? root).map Path.toString := by
  rw [relativeNames, List.map_map]
  refine List.map_congr_left fun path member => ?_
  obtain ⟨rest, found⟩ := leadsOn path member
  simp [found]

/-- Joined to the root they are the paths. -/
theorem map_join_relativeNames :
    (relativeNames artifacts root).map (fun name => root / Path.ofString name) = artifacts.paths := by
  rw [relativeNames, List.map_map]
  refine (List.map_congr_left fun path member => ?_).trans (List.map_id _)
  obtain ⟨rest, found⟩ := leadsOn path member
  rw [Function.comp_apply, found, Option.getD_some, Path.ofString_toString]
  exact Path.append_relativeTo? found

end

theorem read?_document (root : Path) (names : List String) :
    Json.read? ((document root names).indented ++ "\n") = some (document root names) := by
  have free : (document root names).FloatFree := by
    simp [document]
  have blank : ['\n'].all Json.isBlank = true := rfl
  have line : "\n" = String.ofList ['\n'] := rfl
  rw [Json.indented, line, ← String.ofList_append]
  exact free.read?_render .indented blank

/-- A command that lists class files has scanned the directory, in the world in which it began, and printed
what it found. -/
theorem run_ok {directory extension : String} {code : Nat}
    (lists : ScanCommand.run (jsonArguments directory extension) world = .ok (.exit code) after) :
    code = 0 ∧ problemWith .directory directory world = .ok none world ∧
      ∃ artifacts searched,
        Scanner.scan ⟨extension⟩ (Path.ofString directory) world = .ok artifacts searched ∧
        after = { searched with
          printed := ((document (Path.ofString directory)
            (relativeNames artifacts (Path.ofString directory))).indented ++ "\n") :: searched.printed } := by
  obtain ⟨reading, read, isRead, done⟩ := bind_ok.1 lists
  cases reading with
  | error error => cases (pure_ok.1 done).1
  | ok given =>
      obtain ⟨reads, rfl, suits⟩ := readCommand_ok_iff.1 isRead
      cases (readArguments_json directory extension).symm.trans reads
      obtain ⟨_, listed, listing, done⟩ := bind_ok.1 done
      obtain ⟨same, rfl⟩ := pure_ok.1 done
      cases same
      obtain ⟨artifacts, searched, scan, written⟩ := bind_ok.1 listing
      refine ⟨rfl, ?_, artifacts, searched, scan, (modify_ok.1 written).symm⟩
      refine suits (dirOption (some defaultClassesDir.toString)) ?_ directory rfl
      exact List.mem_eraseDups.2 (List.mem_append_left _ List.mem_cons_self)

end ScanCommand

namespace EnhanceCommand

variable {directory extension : String} {plugins : Plugins} {arguments : List String}
  {found : Work} {ended : World}

/-! ## The runs -/

/-- Arguments that give a directory and an ending, and name no file with settings. -/
def IsAbout (arguments : List String) (directory extension : String) : Prop :=
  ∃ given left, readArguments options false arguments = .ok (given, left) ∧
    valueOf? given "--dir" = some directory ∧ valueOf? given "--extension" = some extension ∧
    valueOf? given "--config" = none

/-- Without a file there are the usual settings before anything is given anew. -/
theorem baseSettings_usual (noFile : Disk.isFile world.disk world.cwd usualFile = .ok false) :
    baseSettings none world = .ok (.ok {}) world := by
  rw [baseSettings, get_bind, noFile]
  rfl

/-- A directory and an ending that are given go before what the settings say. -/
theorem applied_of_given (overrides : Overrides) {root : Path} (isOne : IsExtension extension)
    (isRoot : overrides.classesDir = some root) (isEnding : overrides.extension = some extension)
    (base : Settings) :
    (overrides.applied base).classesDir = root ∧ (overrides.applied base).extension = extension := by
  have notEmpty : extension ≠ "" := by
    rintro rfl
    exact absurd isOne.1 (by decide)
  constructor
  · rw [Overrides.applied, isRoot, Option.getD_some]
  · rw [Overrides.applied, isEnding, Overrides.word_of_ne notEmpty, Option.getD_some]

/-- With no usual file, the work about a directory and an ending is a run with them, and nothing was done
before it. -/
theorem work_about (noFile : Disk.isFile world.disk world.cwd usualFile = .ok false)
    (isOne : IsExtension extension) (about : IsAbout arguments directory extension)
    (worked : work plugins arguments world = .ok (some found) ended) :
    found.settings.classesDir = Path.ofString directory ∧ found.settings.extension = extension ∧
      ∃ transformer, enhance found.settings transformer world = .ok found.report ended := by
  obtain ⟨request, settings, report⟩ := found
  obtain ⟨given, read, loaded, transformer, isRead, isRequest, loads, -, done⟩ := work_ok worked
  obtain rfl : request = .ofGiven given := isRequest
  obtain ⟨reads, rfl, -⟩ := readCommand_ok_iff.1 isRead
  obtain ⟨other, left, reads', isDirectory, isEnding, noConfig⟩ := about
  cases reads.symm.trans reads'
  have unnamed : (Request.ofGiven given).file = none := by
    rw [Request.ofGiven, noConfig]
    rfl
  dsimp only at loads done ⊢
  rw [unnamed] at loads
  have based := baseSettings_usual noFile
  obtain ⟨fits, rfl⟩ := applied_of_settings based loads
  cases loads.symm.trans (settings_of_fits based fits)
  have isRoot : (Request.ofGiven given).overrides.classesDir = some (Path.ofString directory) := by
    rw [Request.ofGiven, isDirectory]
    rfl
  obtain ⟨sameRoot, sameEnding⟩ := applied_of_given _ isOne isRoot isEnding {}
  exact ⟨sameRoot, sameEnding, transformer, done⟩

/-- The report of the work shows what a scan of the directory finds in the same tree. -/
theorem work_scans {other searched : World} {artifacts : Artifacts}
    (noFile : Disk.isFile world.disk world.cwd usualFile = .ok false) (isOne : IsExtension extension)
    (scan : Scanner.scan ⟨extension⟩ (Path.ofString directory) world = .ok artifacts searched)
    (same : world.SameTree other) (about : IsAbout arguments directory extension)
    (worked : work plugins arguments other = .ok (some found) ended)
    (asks : found.settings.capabilities.any = true) : found.report.scanned = artifacts.paths := by
  rw [← same.disk, ← same.cwd] at noFile
  obtain ⟨isRoot, isEnding, transformer, done⟩ := work_about noFile isOne about worked
  obtain ⟨ending, after, running, done⟩ := bind_ok.1 done
  obtain ⟨isReport, -⟩ := pure_ok.1 done
  obtain ⟨searching, searched', begins, found', scan', shows⟩ := Run.startNew_scans asks running
  obtain ⟨searched'', scan''⟩ := Scanner.scan_of_sameTree (same.trans begins) scan
  rw [isRoot, isEnding] at scan'
  cases scan'.symm.trans scan''
  rw [← isReport]
  exact shows.symm

/-! ## That there are such runs -/

/-- The flag that switches a feature on. -/
def flagName : Feature → String
  | .lazyInitialization => "--enable-lazy-initialization"
  | .dirtyTracking => "--enable-dirty-tracking"
  | .associationManagement => "--enable-association-management"
  | .extendedEnhancement => "--enable-extended-enhancement"

theorem featureFlag_eq : featureFlag = fun feature => flag [flagName feature] := by
  funext feature
  cases feature <;> decide +kernel

/-- The arguments that ask for a run on a directory with an ending and a feature. -/
def featureArguments (directory extension : String) (feature : Feature) : List String :=
  ["--dir", directory, "--extension", extension, flagName feature]

/-- What these arguments give. -/
def featureGiven (directory extension : String) (feature : Feature) : List Given :=
  [{ option := dirOption none, value := some directory },
    { option := extensionOption none, value := some extension }, { option := featureFlag feature }]

theorem readArguments_feature (directory extension : String) (feature : Feature) :
    readArguments options false (featureArguments directory extension feature) =
      .ok (featureGiven directory extension feature, []) := by
  rw [featureArguments, featureGiven, options, featureFlag_eq]
  cases feature <;> rfl

/-- What they give anew. -/
def featureOverrides (directory extension : String) (feature : Feature) : Overrides :=
  { classesDir := some (Path.ofString directory)
    extension := some extension
    features := [feature.name] }

theorem fits_feature (isOne : IsExtension extension) (directory : String) (feature : Feature) :
    (featureOverrides directory extension feature).Fits := by
  refine ⟨?_, nofun, ?_⟩
  · intro name member
    exact ⟨feature, (List.mem_singleton.1 member).symm⟩
  · rintro words ⟨⟩ -
    exact isOne

theorem ofGiven_feature (directory extension : String) (feature : Feature) :
    Request.ofGiven (featureGiven directory extension feature) =
      { file := none
        overrides := featureOverrides directory extension feature
        format := .table
        verbose := false } := by
  rw [Request.ofGiven, featureGiven, featureFlag_eq]
  cases feature <;> rfl

theorem isAbout_feature (directory extension : String) (feature : Feature) :
    IsAbout (featureArguments directory extension feature) directory extension := by
  refine ⟨_, [], readArguments_feature directory extension feature, ?_⟩
  rw [featureGiven, featureFlag_eq]
  cases feature <;> exact ⟨rfl, rfl, rfl⟩

/-- The options for which not every value is suitable. -/
def choosy : List OptionSpec :=
  [{ names := ["-c", "--config"], takesValue := true, suitability := .file }, dirOption none,
    { names := ["--write-strategy"], takesValue := true,
      suitability := .oneOf (WriteStrategy.choices.map (·.1)) false },
    formatOption, logLevelOption]

theorem suitability_of_mem_options {spec : OptionSpec} (member : spec ∈ options) :
    spec.suitability = .anything ∨ spec ∈ choosy := by
  have all : ∀ spec ∈ options, spec.suitability = .anything ∨ spec ∈ choosy := by decide +kernel
  exact all spec member

theorem mem_options_of_mem_inOrder {feature : Feature} {spec : OptionSpec}
    (member : spec ∈ inOrder options (featureGiven directory extension feature)) : spec ∈ options := by
  have isFlag : featureFlag feature ∈ options :=
    List.mem_append_left _ (List.mem_append_right _ (List.mem_map_of_mem (Feature.mem_all feature)))
  have isDirectory : dirOption none ∈ options := by
    simp [options]
  have isEnding : extensionOption none ∈ options := by
    simp [options]
  rw [inOrder, List.mem_eraseDups, List.mem_append] at member
  refine member.elim (fun isGiven => ?_) id
  simp only [featureGiven, List.map_cons, List.map_nil, List.mem_cons, List.not_mem_nil, or_false] at isGiven
  rcases isGiven with rfl | rfl | rfl
  · exact isDirectory
  · exact isEnding
  · exact isFlag

/-- If the directory suits, all values suit. -/
theorem readCommand_feature (feature : Feature)
    (suits : problemWith .directory directory world = .ok none world) :
    readCommand options (featureArguments directory extension feature) world =
      .ok (.ok (featureGiven directory extension feature)) world := by
  refine readCommand_ok_iff.2 ⟨readArguments_feature directory extension feature, rfl, ?_⟩
  intro spec member value valued
  rcases suitability_of_mem_options (mem_options_of_mem_inOrder member) with anything | isChoosy
  · rw [anything]
    rfl
  · rw [featureGiven, featureFlag_eq] at valued
    simp only [choosy, List.mem_cons, List.not_mem_nil, or_false] at isChoosy
    rcases isChoosy with rfl | rfl | rfl | rfl | rfl
    · cases feature <;> cases valued
    · cases feature <;> (cases valued; exact suits)
    · cases feature <;> cases valued
    · cases feature <;> (cases valued; exact problemWith_of_mem (by decide) _ _)
    · cases feature <;> (cases valued; exact problemWith_of_mem (by decide) _ _)

/-- If the scan of the directory returns, there is a run on it for each feature, with the transformer that
is built in. -/
theorem work_feature {artifacts : Artifacts} {searched : World} (isOne : IsExtension extension)
    (noFile : Disk.isFile world.disk world.cwd usualFile = .ok false)
    (suits : problemWith .directory directory world = .ok none world)
    (scan : Scanner.scan ⟨extension⟩ (Path.ofString directory) world = .ok artifacts searched)
    (noNul : ∀ path ∈ artifacts.paths, Disk.hasNul path = false) (feature : Feature) :
    ∃ found ended, work {} (featureArguments directory extension feature) world = .ok (some found) ended ∧
      found.settings.capabilities.any = true := by
  let overrides := featureOverrides directory extension feature
  have loads := settings_of_fits (baseSettings_usual noFile) (fits_feature isOne directory feature)
  obtain ⟨isRoot, isEnding⟩ := applied_of_given overrides isOne rfl rfl {}
  have selects : (({} : Plugins).resolve (overrides.applied {}).transformer).result = .ok .noOp :=
    resolve_unnamed rfl
  have asks : (overrides.applied {}).capabilities.any = true := by
    cases feature <;> rfl
  have independent : (overrides.applied {}).dependencies = [] := rfl
  generalize overrides.applied {} = settings at loads isRoot isEnding selects asks independent
  have nameable : ∀ candidate ∈ Classpath.candidates settings.classesDir settings.dependencies,
      candidate.IsNameable := by
    rw [independent, isRoot]
    intro candidate member location isLocation
    obtain rfl := List.mem_singleton.1 member
    cases isLocation
    exact hasNul_of_problemWith suits
  rw [← isRoot, ← isEnding] at scan
  have runs : (Run.startNew ⟨settings, .noOp, .logging⟩).Returns world :=
    Run.startNew_returns nameable scan rfl noNul
  obtain ⟨⟨report, last⟩, ended, running⟩ := runs
  refine ⟨⟨.ofGiven (featureGiven directory extension feature), settings, report⟩, ended, ?_, asks⟩
  have loads : CommandLine.settings (Request.ofGiven (featureGiven directory extension feature)).file
      (Request.ofGiven (featureGiven directory extension feature)).overrides world =
        .ok (.ok settings) world := by
    rw [ofGiven_feature]
    exact loads
  refine bind_ok.2 ⟨_, world, readCommand_feature feature suits, bind_ok.2 ⟨_, world, loads, ?_⟩⟩
  simp only [selects]
  exact bind_ok.2 ⟨report, ended, bind_ok.2 ⟨_, ended, running, pure_ok.2 ⟨rfl, rfl⟩⟩,
    pure_ok.2 ⟨rfl, rfl⟩⟩

end EnhanceCommand

namespace ScanCommand

open EnhanceCommand (IsAbout featureArguments)

/-! ## What is foretold -/

/-- What a listing of the class files of a directory has found and printed. -/
structure Lists (directory extension : String) (world after : World) (artifacts : Artifacts)
    (names : List String) : Prop where
  scans : ∃ searched,
    Scanner.scan ⟨extension⟩ (Path.ofString directory) world = .ok artifacts searched
  /-- What was printed is read as a document with the directory, the names and their number. -/
  prints : ∃ text, after.printedText = world.printedText ++ text ∧
    Json.read? text = some (.obj [("classes_dir", .str (Path.ofString directory).toString),
      ("count", .nat names.length), ("artifacts", .texts names)])
  /-- All paths lead on from the directory, and the names are the texts of what they go on with. -/
  relative : names.map some =
    artifacts.paths.map fun path => (path.relativeTo? (Path.ofString directory)).map Path.toString
  joined : names.map (fun name => Path.ofString directory / Path.ofString name) = artifacts.paths
  /-- The tree is as before if what the system refuses it always refuses. -/
  lasts : world.IsSteady → world.SameTree after

/-- What the names that were listed tell of runs in the same tree. -/
structure Foretells (directory extension : String) (world : World) (names : List String) : Prop where
  /-- A run on the directory, with the ending and some feature, scans what the names lead to. -/
  scanned {plugins : Plugins} {arguments : List String} {other ended : World}
    {found : EnhanceCommand.Work} : world.SameTree other → IsAbout arguments directory extension →
      EnhanceCommand.work plugins arguments other = .ok (some found) ended →
      found.settings.capabilities.any = true →
      found.report.scanned = names.map fun name => Path.ofString directory / Path.ofString name
  /-- There is such a run for each feature, unless a name holds a null character. -/
  runs (feature : Feature) {other : World} : world.SameTree other →
    (∀ name ∈ names, Disk.hasNul (Path.ofString directory / Path.ofString name) = false) →
      ∃ found ended, EnhanceCommand.work {} (featureArguments directory extension feature) other =
          .ok (some found) ended ∧
        found.settings.capabilities.any = true ∧
        found.report.scanned = names.map fun name => Path.ofString directory / Path.ofString name

/-- The names that are listed for a directory, if the listing returns, are those of the class files that
every run on it scans, in the order in which it scans them. -/
theorem run_foretells {directory extension : String} {code : Nat}
    (proper : world.disk.isProper = true) (isOne : IsExtension extension)
    (noFile : Disk.isFile world.disk world.cwd usualFile = .ok false)
    (lists : ScanCommand.run (jsonArguments directory extension) world = .ok (.exit code) after) :
    code = 0 ∧ ∃ artifacts names, Lists directory extension world after artifacts names ∧
      Foretells directory extension world names := by
  obtain ⟨rfl, suits, artifacts, searched, scan, rfl⟩ := run_ok lists
  have leadsOn := Scanner.scan_leadsOn proper scan
  have relative := map_some_relativeNames leadsOn
  have joined := map_join_relativeNames leadsOn
  generalize relativeNames artifacts (Path.ofString directory) = names at relative joined ⊢
  refine ⟨rfl, artifacts, names, ⟨⟨searched, scan⟩, ⟨_, ?_, read?_document _ names⟩, relative, joined, ?_⟩,
    ?_, ?_⟩
  · have unprinted := (Scanner.scan_lawful unprinted_working.toLawful _ _).of_ok scan
    rw [World.printedText_write, World.printedText_of_same unprinted]
  · intro steady
    have lasts := (Scanner.scan_lawful lasting_lawful _ _).of_ok scan steady
    exact ⟨lasts.disk, lasts.cwd, lasts.faults⟩
  · intro plugins arguments other ended found same about worked asks
    rw [joined]
    exact EnhanceCommand.work_scans noFile isOne scan same about worked asks
  · intro feature other same noNul
    have plain : ∀ path ∈ artifacts.paths, Disk.hasNul path = false := by
      rw [← joined]
      exact List.forall_mem_map.2 noNul
    have suitsThere := (EnhanceCommand.problemWith_lawful grounded_lawful _ _).of_ok same suits
    obtain ⟨_, suits', -⟩ := suitsThere
    obtain rfl := problemWith_ok suits'
    obtain ⟨searched', scan'⟩ := Scanner.scan_of_sameTree same scan
    have noFile' : Disk.isFile other.disk other.cwd usualFile = .ok false := by
      rw [same.disk, same.cwd, noFile]
    obtain ⟨found, ended, worked, asks⟩ :=
      EnhanceCommand.work_feature isOne noFile' suits' scan' plain feature
    refine ⟨found, ended, worked, asks, ?_⟩
    rw [joined]
    exact EnhanceCommand.work_scans noFile isOne scan same
      (EnhanceCommand.isAbout_feature directory extension feature) worked asks

/-- A directory in which not every directory can be listed is named on a detour. -/
theorem run_foretells_detour :
    Sample.tangled.disk.isProper = true ∧ IsExtension ".class" ∧
      Disk.isFile Sample.tangled.disk Sample.tangled.cwd usualFile = .ok false ∧
      ∃ after artifacts,
        ScanCommand.run (jsonArguments "a/inner/.." ".class") Sample.tangled = .ok (.exit 0) after ∧
        Lists "a/inner/.." ".class" Sample.tangled after artifacts
          ["inner/X.class", "B.class", "C.class"] ∧
        Foretells "a/inner/.." ".class" Sample.tangled ["inner/X.class", "B.class", "C.class"] := by
  have proper : Sample.tangled.disk.isProper = true := by decide +kernel
  have isOne : IsExtension ".class" := by decide
  have noFile : Disk.isFile Sample.tangled.disk Sample.tangled.cwd usualFile = .ok false := by
    decide +kernel
  have ends : (ScanCommand.run (jsonArguments "a/inner/.." ".class")).endsWith (· = .exit 0)
      Sample.tangled = true := by
    decide +kernel
  have finds : (Scanner.scan ⟨".class"⟩ (Path.ofString "a/inner/..")).endsWith (fun artifacts =>
      artifacts.paths.map (fun path => (path.relativeTo? (Path.ofString "a/inner/..")).map Path.toString) =
        ["inner/X.class", "B.class", "C.class"].map some) Sample.tangled = true := by
    decide +kernel
  obtain ⟨ending, after, lists, isExit⟩ := ok_of_endsWith ends
  obtain rfl := of_decide_eq_true isExit
  obtain ⟨-, artifacts, names, tells, foretells⟩ := run_foretells proper isOne noFile lists
  obtain ⟨found, searched, scan, same⟩ := ok_of_endsWith finds
  obtain ⟨searched', scan'⟩ := tells.scans
  cases scan.symm.trans scan'
  obtain rfl := List.map_injective_iff.2 (fun _ _ => Option.some.inj)
    (tells.relative.trans (of_decide_eq_true same))
  exact ⟨proper, isOne, noFile, after, artifacts, lists, tells, foretells⟩

/-- A point and a byte that is no UTF-8, as the system hands them over. -/
def undecodable : Text.RawText := ⟨[.whole '.', .ofHalf 0x4ff]⟩

/-- A directory with a class file, and a file of settings with that ending. -/
def halved : World :=
  { disk := .dir "a" (.file "x.class" ⟨[], 0o644, false⟩ .empty)
      (.file "c.yaml" ⟨Text.encodeUtf8 "\x7b\"artifact_extension\": \".\\udcff\"\x7d", 0o644, false⟩ .empty)
    now := default }

/-- There is no run that such an ending could foretell: the class files are listed, but a command for
enhancing with it never has settings, whatever else it is given, and one that takes it from a file is refused
too. -/
theorem list_foretells_nothing :
    undecodable.signs.length = 2 ∧ undecodable.signs.head? = some (.whole '.') ∧
      Disk.isFile halved.disk halved.cwd usualFile = .ok false ∧
      (∃ after, list (Path.ofString "a") undecodable .json halved = .ok () after) ∧
      (∀ file overrides world settings after,
        settingsFor file overrides undecodable world ≠ .ok (.ok settings) after) ∧
      ∃ after, EnhanceCommand.run {}
        ["--config", "c.yaml", "--dir", "a", "--enable-dirty-tracking", "--format", "json"] halved =
          .ok (.refused (.ofIssues [⟨["artifact_extension"], .undecodableText⟩] "c.yaml")) after := by
  have noFile : Disk.isFile halved.disk halved.cwd usualFile = .ok false := by
    decide +kernel
  have listed : (list (Path.ofString "a") undecodable .json).endsWith (fun _ => true) halved = true := by
    decide +kernel
  have ended : (EnhanceCommand.run {}
      ["--config", "c.yaml", "--dir", "a", "--enable-dirty-tracking", "--format", "json"]).endsWith
        (· = .refused (.ofIssues [⟨["artifact_extension"], .undecodableText⟩] "c.yaml")) halved = true := by
    decide +kernel
  obtain ⟨⟨⟩, after, lists, -⟩ := ok_of_endsWith listed
  obtain ⟨ending, last, runs, isRefusal⟩ := ok_of_endsWith ended
  obtain rfl := of_decide_eq_true isRefusal
  exact ⟨rfl, rfl, noFile, ⟨after, lists⟩, fun _ _ _ _ _ => settingsFor_ne_ok rfl _, last, runs⟩

end ScanCommand

end CommandLine

end Enhance
