import Enhance.Proofs.CommandLine.Exit
import Enhance.Proofs.Console.Front
import Enhance.Proofs.Json.RoundTrip
import Enhance.Proofs.Run.Reported

/-!
# What the command for enhancing prints as JSON

If JSON is asked for, the report is printed as JSON and nothing is printed behind it.  Before it there are
the messages about the settings if the command is verbose; they begin no value, so that all of it together
is no JSON (`EnhanceCommand.run_prints_json`).
-/

namespace Enhance

open Console Program

/-! ## What is printed -/

/-- Everything that was printed, as one text. -/
def World.printedText (world : World) : String :=
  String.join world.printed.reverse

namespace World

theorem printedText_write (world : World) (text : String) :
    printedText { world with printed := text :: world.printed } = world.printedText ++ text := by
  simp [printedText]

theorem printedText_of_same {before after : World} (same : before.SameIn printed after) :
    after.printedText = before.printedText := by
  rw [World.SameIn] at same
  rw [printedText, printedText, same]

end World

namespace Program

theorem sameIn_printed_of_silent (before after : World) (silent : before.Silent after) :
    before.SameIn World.printed after := by
  obtain ⟨log, faults, reported, rfl⟩ := silent
  rfl

/-- Nothing that a run does itself prints anything. -/
theorem unprinted_working :
    Working fun _ program => program.Keeps (World.SameIn World.printed) :=
  have reporting := keeps_reporting sameIn_printed_of_silent
  have recording := keeps_recording reporting.toLawful (fun _ _ => rfl) (fun _ _ _ => rfl)
    (fun _ _ => rfl) fun _ _ same => same
  { reporting, recording with
    alter := keeps_alter fun _ _ => rfl
    strand := fun _ _ => rfl }

theorem logAll_silent (entries : List LogEntry) : (entries.forM log).Keeps World.Silent := by
  induction entries with
  | nil => exact keeps_pure ()
  | cons entry entries ih => exact keeps_bind (log_silent entry) fun _ => ih

variable {blocks : List Block}

/-- What is printed is the text of the blocks. -/
theorem printAll_shows (sound : blocks.all Block.isSound = true) (world : World) :
    ∃ after, blocks.forM print world = .ok () after ∧ world.SameButShown after ∧
      after.printedText = world.printedText ++ (Console.printed world.columns blocks).1 := by
  induction blocks generalizing world with
  | nil => exact ⟨world, rfl, .refl world, by simp [Console.printed]⟩
  | cons block blocks ih =>
      simp only [List.all_cons, Bool.and_eq_true] at sound
      obtain ⟨text, written, prints⟩ := print_shows sound.1 world
      obtain ⟨after, rest, same, shown⟩ := ih sound.2 { world with printed := text :: world.printed }
      refine ⟨after, ?_, .trans ⟨_, _, _, rfl⟩ same, ?_⟩
      · rw [List.forM, bind_eq, prints]
        exact rest
      · rw [shown, World.printedText_write, Console.printed, written, String.append_assoc]

/-- A program has nothing to do with the console: it does the same whatever was shown before, and prints
nothing. -/
def Discreet {α : Type} (program : Program α) : Prop :=
  Framed program ∧ program.Keeps (World.SameIn World.printed)

end Program

namespace CommandLine.EnhanceCommand

variable {plugins : Plugins} {request : Request} {settings : Settings} {transformer : Transformer}
  {report : Report} {world ready ended : World} {arguments : List String}

theorem announce_shows (sound : (blocksBefore request settings).all Block.isSound = true)
    (plugins : Plugins) (world : World) :
    ∃ after, announce plugins request settings world = .ok () after ∧ world.SameButShown after ∧
      after.printedText =
        world.printedText ++ (Console.printed world.columns (blocksBefore request settings)).1 := by
  obtain ⟨middle, printed, same, shown⟩ := printAll_shows sound world
  obtain ⟨after, logged, later⟩ := logAll_ok (plugins.resolve settings.transformer).log middle
  refine ⟨after, ?_, same.trans later, ?_⟩
  · rw [announce, bind_eq, printed]
    exact logged
  · have silent := (logAll_silent _).of_ok logged
    rw [World.printedText_of_same (sameIn_printed_of_silent _ _ silent), shown]

theorem deliver_json (json : request.format = .json)
    (done : enhance settings transformer world = .ok report ended) :
    deliver request settings transformer world =
      .ok (endingOf report) { ended with printed := (report.jsonText true ++ "\n") :: ended.printed } := by
  rw [deliver, bind_eq, done, json]
  rfl

/-! ## The messages about the settings -/

theorem blocksBefore_of_verbose (verbose : request.verbose = true) (settings : Settings) :
    blocksBefore request settings = settingsBlocks settings := by
  simp [blocksBefore, verbose]

theorem blocksBefore_of_quiet (quiet : request.verbose = false) (settings : Settings) :
    blocksBefore request settings = [] := by
  simp [blocksBefore, quiet]

/-- The messages about the settings as they are printed on a console of some width. -/
def settingsText (settings : Settings) (width : Nat) : String :=
  (Console.printed width (settingsBlocks settings)).1

/-- No value begins with the letter that the messages about the settings begin with. -/
theorem read?_of_words {text : String} {rest : List Char} (words : text.toList = 'C' :: rest) :
    Json.read? text = none := by
  have noValue : Json.readValue? (text.length + 1) ('C' :: rest) = none := rfl
  rw [Json.read?, words, noValue]

/-- The messages about the settings begin with the same letter on a console of any width. -/
theorem exists_settings_words {width : Nat} (wide : 0 < width)
    (sound : (settingsBlocks settings).all Block.isSound = true) :
    ∃ rest, (settingsText settings width).toList = 'C' :: rest := by
  have steady : IsSteady 'C' := ⟨by decide, by decide, by decide, by decide, by decide +kernel⟩
  have letters : "Classes directory: ".toList = 'C' :: "lasses directory: ".toList := by decide +kernel
  have begins : (s!"Classes directory: {settings.classesDir}").toList =
      'C' :: ("lasses directory: ".toList ++ (toString settings.classesDir).toList) := by
    rw [String.toList_append]
    change "Classes directory: ".toList ++ _ = _
    rw [letters]
    rfl
  simp only [settingsBlocks, List.all_cons, Bool.and_eq_true] at sound
  obtain ⟨text, prints⟩ := Block.exists_text_of_sound width sound.1
  obtain ⟨rest, first⟩ := message_begins steady wide begins prints
  rw [settingsText, settingsBlocks, Console.printed, prints, String.toList_append, first]
  exact ⟨_, rfl⟩

/-- Whatever stands behind them, the messages about the settings do not begin a value. -/
theorem read?_of_settings {width : Nat} (wide : 0 < width)
    (sound : (settingsBlocks settings).all Block.isSound = true) (ending : String) :
    Json.read? (settingsText settings width ++ ending) = none := by
  obtain ⟨rest, words⟩ := exists_settings_words wide sound
  apply read?_of_words
  rw [String.toList_append, words]
  rfl

/-! ## The whole command -/

/-- Up to the messages about the settings, the console stays as it is. -/
theorem console_of_settings {given : List Given} {file : Option Path} {overrides : Overrides}
    {loaded : Except Stop Settings} {read : World}
    (isRead : readCommand options arguments world = .ok (.ok given) read)
    (loads : CommandLine.settings file overrides (opened given read) = .ok loaded ready) :
    ready.columns = world.columns ∧ world.SameIn World.printed ready := by
  have silent : Lawful fun _ program => program.Keeps World.Silent :=
    keeps_lawful fun _ _ silent => silent
  obtain ⟨log, faults, reported, rfl⟩ := (readCommand_lawful silent _ _).of_ok isRead
  obtain ⟨log', faults', reported', rfl⟩ := (settings_lawful silent _ _).of_ok loads
  unfold opened
  split
  · exact ⟨rfl, rfl⟩
  · exact ⟨rfl, rfl⟩

/-- What the command prints if JSON is asked for: first the messages about the settings, if there are
any, and then the report. -/
theorem run_shows {found : Work} (json : found.request.format = .json)
    (discreet : ∀ transformer, (plugins.resolve found.settings.transformer).result = .ok transformer →
      transformer.Has fun _ program => Discreet program)
    (worked : work plugins arguments world = .ok (some found) ended)
    (sound : (blocksBefore found.request found.settings).all Block.isSound = true) :
    ∃ after, EnhanceCommand.run plugins arguments world =
        .ok (.exit (if found.report.status = .aborted then 1 else 0)) after ∧
      after.printedText = world.printedText ++
        ((Console.printed world.columns (blocksBefore found.request found.settings)).1 ++
          (found.report.jsonText true ++ "\n")) := by
  obtain ⟨request, settings, report⟩ := found
  obtain ⟨given, read, loaded, transformer, isRead, isRequest, loads, selects, done⟩ := work_ok worked
  obtain rfl : request = .ofGiven given := isRequest
  have has := discreet transformer selects
  have framed := enhance_framed (fun file classpath capabilities =>
    (has file classpath capabilities).1) settings
  have prints := enhance_working unprinted_working (fun file classpath capabilities =>
    (has file classpath capabilities).2) settings
  obtain ⟨ready, loads', sameReady⟩ :=
    Framed.of_ok (settings_lawful framed_working.toLawful _ _) (opened_same given read) loads
  have performs := perform_eq loads' selects
  obtain ⟨begun, announced, sameBegun, shownBegun⟩ := announce_shows sound plugins ready
  obtain ⟨ended', done', -⟩ := framed.of_ok (sameReady.trans sameBegun) done
  have delivered := deliver_json json done'
  rw [bind_eq, announced] at performs
  have caught := catchOrdinary_ok.2 (.inl ⟨_, performs.trans delivered, rfl⟩)
  have code : endingOf report = .exit (if report.status = .aborted then 1 else 0) := by
    simp [endingOf, Report.isAborted]
  refine ⟨{ ended' with printed := (report.jsonText true ++ "\n") :: ended'.printed }, ?_, ?_⟩
  · rw [run_eq isRead, bind_eq, caught, ← code]
    rfl
  · obtain ⟨columns, shownReady⟩ := console_of_settings isRead loads'
    have unprinted := Keeps.of_ok prints done'
    rw [World.printedText_write, World.printedText_of_same unprinted, shownBegun, columns,
      World.printedText_of_same shownReady]
    simp only [String.append_assoc]

/-- How the command prints a report as JSON. -/
structure Work.PrintsJson (work : Work) (plugins : Plugins) (arguments : List String)
    (world : World) : Prop where
  /-- If it is not verbose, it prints the report and the end of a line, and nothing else. -/
  alone : work.request.verbose = false →
    ∃ after, EnhanceCommand.run plugins arguments world =
        .ok (.exit (if work.report.status = .aborted then 1 else 0)) after ∧
      after.printedText = world.printedText ++ (work.report.jsonText true ++ "\n")
  /-- That is read as the report. -/
  read : Json.read? (work.report.jsonText true ++ "\n") = some work.report.toJson
  /-- If it is verbose, the messages about the settings stand before the report, so that all of it together
  is no JSON on a console that shows anything. -/
  spoilt : work.request.verbose = true → (settingsBlocks work.settings).all Block.isSound = true →
    ∃ after, EnhanceCommand.run plugins arguments world =
        .ok (.exit (if work.report.status = .aborted then 1 else 0)) after ∧
      after.printedText = world.printedText ++
        (settingsText work.settings world.columns ++ (work.report.jsonText true ++ "\n")) ∧
      (0 < world.columns → Json.read? (settingsText work.settings world.columns ++
        (work.report.jsonText true ++ "\n")) = none)

/-- If JSON is asked for, all that the command prints is the report as JSON and the end of a line, and is
read as the report, unless the command is verbose: then it prints messages about the settings first, so
that what it prints is no JSON. -/
theorem run_prints_json {found : Work} (json : found.request.format = .json)
    (discreet : ∀ transformer, (plugins.resolve found.settings.transformer).result = .ok transformer →
      transformer.Has fun _ program => Discreet program)
    (worked : work plugins arguments world = .ok (some found) ended) :
    found.PrintsJson plugins arguments world := by
  constructor
  · intro quiet
    have nothing := blocksBefore_of_quiet quiet found.settings
    have sound : (blocksBefore found.request found.settings).all Block.isSound = true := by
      rw [nothing]
      rfl
    obtain ⟨after, exits, shown⟩ := run_shows json discreet worked sound
    rw [nothing, Console.printed, String.empty_append] at shown
    exact ⟨after, exits, shown⟩
  · exact found.report.read?_jsonText true
  · intro verbose sound
    have messages := blocksBefore_of_verbose verbose found.settings
    obtain ⟨after, exits, shown⟩ := run_shows json discreet worked (messages ▸ sound)
    rw [messages] at shown
    exact ⟨after, exits, shown, fun wide => read?_of_settings wide sound _⟩

/-- The transformer that is built in prints nothing. -/
theorem discreet_of_unnamed (unnamed : settings.transformer = none) :
    ∀ transformer, (({} : Plugins).resolve settings.transformer).result = .ok transformer →
      transformer.Has fun _ program => Discreet program := by
  intro transformer selects
  rw [unnamed, resolve_unnamed rfl] at selects
  cases selects
  intro file classpath capabilities
  exact ⟨framed_pure _, keeps_pure _⟩

/-- The work on given arguments is there if it passes a test. -/
theorem exists_work {test : Work → Bool}
    (ends : (work plugins arguments).endsWith (fun found => found.any test) world = true) :
    ∃ found ended, work plugins arguments world = .ok (some found) ended ∧ test found = true := by
  obtain ⟨found?, ended, worked, checked⟩ := ok_of_endsWith ends
  cases found? with
  | none => contradiction
  | some found => exact ⟨found, ended, worked, checked⟩

theorem run_prints_json_bracketed : ∃ (found : Work) (ended after : World),
    work {} Sample.bracketed Sample.nowhere = .ok (some found) ended ∧
      found.request.format = .json ∧ found.request.verbose = false ∧
      EnhanceCommand.run {} Sample.bracketed Sample.nowhere = .ok (.exit 0) after ∧
      after.printedText = found.report.jsonText true ++ "\n" ∧
      Json.read? after.printedText = some found.report.toJson := by
  have ends : (work {} Sample.bracketed).endsWith (fun found => found.any fun found =>
      found.report.status = .skipped && found.settings.transformer = none &&
        found.request.format = .json && !found.request.verbose) Sample.nowhere = true := by
    decide +kernel
  obtain ⟨found, ended, worked, checked⟩ := exists_work ends
  simp only [Bool.and_eq_true, decide_eq_true_eq, Bool.not_eq_true'] at checked
  obtain ⟨⟨⟨skipped, unnamed⟩, json⟩, quiet⟩ := checked
  have prints := run_prints_json json (discreet_of_unnamed unnamed) worked
  obtain ⟨after, exits, shown⟩ := prints.alone quiet
  rw [skipped] at exits
  have all : after.printedText = found.report.jsonText true ++ "\n" :=
    shown.trans String.empty_append
  exact ⟨found, ended, after, worked, json, quiet, exits, all, all ▸ prints.read⟩

/-- JSON and messages about the settings are asked for. -/
def Sample.wordy : List String :=
  ["--dir", "a", "-v", "--format", "json"]

/-- What is printed is no JSON, although the work of the command gives a report and the command ends as it
should. -/
theorem run_prints_more_wordy : ∃ (found : Work) (ended after : World),
    work {} Sample.wordy Sample.nowhere = .ok (some found) ended ∧
      found.request.format = .json ∧
      EnhanceCommand.run {} Sample.wordy Sample.nowhere = .ok (.exit 0) after ∧
      after.printedText ≠ found.report.jsonText true ++ "\n" ∧
      Json.read? after.printedText = none := by
  have ends : (work {} Sample.wordy).endsWith (fun found => found.any fun found =>
      found.report.status = .skipped && found.settings.transformer = none &&
        found.request.format = .json && found.request.verbose &&
        (settingsBlocks found.settings).all Block.isSound) Sample.nowhere = true := by
    decide +kernel
  obtain ⟨found, ended, worked, checked⟩ := exists_work ends
  simp only [Bool.and_eq_true, decide_eq_true_eq] at checked
  obtain ⟨⟨⟨⟨skipped, unnamed⟩, json⟩, verbose⟩, sound⟩ := checked
  have messages := blocksBefore_of_verbose verbose found.settings
  obtain ⟨after, exits, shown⟩ :=
    run_shows json (discreet_of_unnamed unnamed) worked (messages ▸ sound)
  rw [skipped] at exits
  have all : after.printedText =
      settingsText found.settings 80 ++ (found.report.jsonText true ++ "\n") := by
    rw [messages] at shown
    exact shown.trans String.empty_append
  have unread : Json.read? after.printedText = none := by
    rw [all]
    exact read?_of_settings (by decide) sound _
  refine ⟨found, ended, after, worked, json, exits, ?_, unread⟩
  intro same
  rw [same, found.report.read?_jsonText true] at unread
  contradiction

end CommandLine.EnhanceCommand

end Enhance
