import Enhance.Proofs.Console
import Enhance.Proofs.Run.Approach
import Enhance.Proofs.Run.History
import Enhance.Proofs.Shown

/-!
# How the command for enhancing ends

What the command works on is said by `EnhanceCommand.work`, which shows nothing.  If the work gives a
report, the command ends with the code that the report calls for, unless a path or a message makes a text
that cannot be shown: then an error escapes, because the words about it cannot be shown either
(`EnhanceCommand.run_exits`).  This is said of texts all of whose tags are read.
-/

namespace Enhance

open Console Program

/-! ## Printing -/

namespace Program

variable {block : Block} {blocks : List Block} {world : World}

/-- A program ends with an error about a text that cannot be shown, although all its tags are read; but for
what is shown, it leaves a given world. -/
def Unshowable {α : Type} (program : Program α) (world left : World) : Prop :=
  ∃ text error after, Markup.isRead text = true ∧ Markup.shown text = .error error ∧
    program world = .error (.markup error) after ∧ left.SameButShown after

theorem print_shows (sound : block.isSound = true) (world : World) :
    ∃ text, block.text world.columns = .ok text ∧
      print block world = .ok () { world with printed := text :: world.printed } := by
  obtain ⟨text, written⟩ := Block.exists_text_of_sound world.columns sound
  rw [print, get_bind, written]
  exact ⟨text, rfl, rfl⟩

theorem print_of_sound (sound : block.isSound = true) (world : World) :
    ∃ after, print block world = .ok () after ∧ world.SameButShown after := by
  obtain ⟨text, -, prints⟩ := print_shows sound world
  exact ⟨_, prints, _, _, _, rfl⟩

theorem print_fails {error : MarkupError} (unwritten : block.text world.columns = .error error) :
    print block world = .error (.markup error) world := by
  rw [print, get_bind, unwritten]
  rfl

theorem print_of_unsound (read : block.isRead = true) (unsound : block.isSound = false)
    (world : World) : Unshowable (print block) world world := by
  have isOk := Block.isOk_text world.columns block
  rw [unsound] at isOk
  cases written : block.text world.columns with
  | ok text =>
      rw [written] at isOk
      contradiction
  | error error =>
      obtain ⟨text, known, failed⟩ := Block.exists_text_of_error read written
      exact ⟨text, error, world, known, failed, print_fails written, .refl world⟩

namespace Unshowable

variable {α β : Type} {first : Program α} {second : α → Program β} {value : α}
  {middle left left' : World}

theorem of_same (same : left.SameButShown left') (unshowable : Unshowable first world left') :
    Unshowable first world left := by
  obtain ⟨text, error, after, read, failed, ended, later⟩ := unshowable
  exact ⟨text, error, after, read, failed, ended, same.trans later⟩

theorem of_eq {other : Program α} (same : first world = other middle)
    (unshowable : Unshowable other middle left) : Unshowable first world left := by
  rw [Unshowable, same]
  exact unshowable

theorem bind (unshowable : Unshowable first world left) (second : α → Program β) :
    Unshowable (first >>= second) world left := by
  obtain ⟨text, error, after, read, failed, ended, same⟩ := unshowable
  refine ⟨text, error, after, read, failed, ?_, same⟩
  rw [bind_eq, ended]

theorem of_bind (done : first world = .ok value middle)
    (unshowable : Unshowable (second value) middle left) :
    Unshowable (first >>= second) world left := by
  obtain ⟨text, error, after, read, failed, ended, same⟩ := unshowable
  refine ⟨text, error, after, read, failed, ?_, same⟩
  rw [bind_eq, done]
  exact ended

end Unshowable

/-- Blocks are printed one after the other. -/
theorem printAll_of_sound (sound : blocks.all Block.isSound = true) (world : World) :
    ∃ after, blocks.forM print world = .ok () after ∧ world.SameButShown after := by
  induction blocks generalizing world with
  | nil => exact ⟨world, rfl, .refl world⟩
  | cons block blocks ih =>
      rw [List.all_cons, Bool.and_eq_true] at sound
      obtain ⟨middle, printed, same⟩ := print_of_sound sound.1 world
      obtain ⟨after, rest, later⟩ := ih sound.2 middle
      refine ⟨after, ?_, same.trans later⟩
      rw [List.forM, bind_eq, printed]
      exact rest

/-- They are printed up to the first that cannot be printed. -/
theorem printAll_of_unsound (read : blocks.all Block.isRead = true)
    (unsound : blocks.all Block.isSound = false) (world : World) :
    Unshowable (blocks.forM print) world world := by
  induction blocks generalizing world with
  | nil => contradiction
  | cons block blocks ih =>
      rw [List.forM]
      rw [List.all_cons, Bool.and_eq_true] at read
      cases sound : block.isSound with
      | false => exact (print_of_unsound read.1 sound world).bind _
      | true =>
          rw [List.all_cons, sound, Bool.true_and] at unsound
          obtain ⟨middle, printed, same⟩ := print_of_sound sound world
          exact .of_bind printed (.of_same same (ih read.2 unsound middle))

theorem logAll_ok (entries : List LogEntry) (world : World) :
    ∃ after, entries.forM log world = .ok () after ∧ world.SameButShown after := by
  induction entries generalizing world with
  | nil => exact ⟨world, rfl, .refl world⟩
  | cons entry entries ih =>
      obtain ⟨after, rest, later⟩ := ih { world with log := entry :: world.log }
      have noted : world.SameButShown { world with log := entry :: world.log } := ⟨_, _, _, rfl⟩
      refine ⟨after, ?_, noted.trans later⟩
      rw [List.forM]
      exact rest

end Program

namespace CommandLine

/-! ## Settings -/

section

variable {holds : (α : Type) → Program α → Prop} (lawful : Lawful holds)

include lawful

theorem ofBytes_lawful (path : Path) (bytes : List UInt8) :
    holds (Except LoadError Settings) (Settings.ofBytes path bytes) := by
  unfold Settings.ofBytes
  split
  · exact lawful.pure _
  · split
    · exact lawful.pure _
    · exact lawful.pure _
    · dsimp only
      split
      · exact lawful.bind (lawful.log nofun) fun _ => lawful.pure _
      · exact lawful.pure _

theorem load_lawful (path : Path) : holds (Except LoadError Settings) (Settings.load path) := by
  have reads : holds (List UInt8) (Settings.readFile path) :=
    lawful.bind (lawful.strike _ _) fun _ => lawful.askSystem _
  apply lawful.look
  · intro one
    apply lawful.look
    · intro two
      dsimp only
      split
      · exact lawful.pure _
      · exact lawful.pure _
      · apply lawful.bind (lawful.catchSystem reads)
        intro found
        cases found with
        | error error => exact lawful.pure _
        | ok bytes => exact ofBytes_lawful lawful path bytes
    · intro two three sameDisk sameCwd
      rw [sameCwd]
  · intro one two sameDisk sameCwd
    rw [sameDisk]

theorem loadFile_lawful (path : Path) : holds (Except Stop Settings) (loadFile path) :=
  lawful.bind (load_lawful lawful path) fun _ => lawful.pure _

/-- Making the settings only looks at files. -/
theorem settings_lawful (file : Option Path) (overrides : Overrides) :
    holds (Except Stop Settings) (settings file overrides) := by
  have bases : holds (Except Stop Settings) (baseSettings file) := by
    cases file with
    | some path => exact loadFile_lawful lawful path
    | none =>
        apply lawful.look
        · intro world
          split
          · exact loadFile_lawful lawful _
          · exact lawful.pure _
          · exact lawful.pure _
        · intro one two sameDisk sameCwd
          rw [sameDisk, sameCwd]
  apply lawful.bind bases
  intro base
  cases base with
  | error stop => exact lawful.pure _
  | ok base =>
      dsimp only
      split
      · exact lawful.pure _
      · exact lawful.pure _

end

namespace EnhanceCommand

/-- What the command works on and what comes of it. -/
structure Work where
  request : Request
  settings : Settings
  report : Report

/-- The work of the command, of which nothing is shown: there is none if the command was not used as it
should be, if there are no settings or if no transformer can be selected. -/
def work (plugins : Plugins) (arguments : List String) : Program (Option Work) := do
  match ← readCommand options arguments with
  | .error _ => return none
  | .ok given =>
    let request := Request.ofGiven given
    match ← CommandLine.settings request.file request.overrides with
    | .error _ => return none
    | .ok settings =>
      match (plugins.resolve settings.transformer).result with
      | .error _ => return none
      | .ok transformer =>
        let report ← enhance settings transformer
        return some { request, settings, report }

/-- The messages about the settings. -/
def settingsBlocks (settings : Settings) : List Block :=
  let names := settings.capabilities.names
  [message .info s!"Classes directory: {settings.classesDir}",
    message .info ("Capabilities: " ++ if names = [] then "none" else ", ".intercalate names)]

/-- What is printed before the run. -/
def blocksBefore (request : Request) (settings : Settings) : List Block :=
  if request.verbose then settingsBlocks settings else []

/-- What is printed about the report, if it is not written as JSON. -/
def blocksAfter (request : Request) (report : Report) : List Block :=
  match request.format with
  | .json => []
  | .table => report.blocks ++ (summary? report).toList

/-- Says what will be done. -/
def announce (plugins : Plugins) (request : Request) (settings : Settings) : Program Unit := do
  (blocksBefore request settings).forM Program.print
  (plugins.resolve settings.transformer).log.forM Program.log

/-- Does it and says what has come of it. -/
def deliver (request : Request) (settings : Settings) (transformer : Transformer) :
    Program Ending := do
  let report ← enhance settings transformer
  printReport request.format report
  return endingOf report

variable {plugins : Plugins} {request : Request} {settings : Settings} {transformer : Transformer}
  {report : Report} {world ready after ended : World}

theorem printSettings_eq (settings : Settings) :
    printSettings settings = (settingsBlocks settings).forM Program.print := by
  simp only [printSettings, settingsBlocks, List.forM, bind_pure_unit]

/-- With settings and a transformer, the command announces its work and delivers it. -/
theorem perform_eq
    (loads : CommandLine.settings request.file request.overrides world = .ok (.ok settings) ready)
    (selects : (plugins.resolve settings.transformer).result = .ok transformer) :
    perform plugins request world =
      (announce plugins request settings >>= fun _ => deliver request settings transformer) ready := by
  rw [perform, bind_eq, loads]
  simp only [selects]
  cases verbose : request.verbose with
  | true =>
      simp only [announce, blocksBefore, verbose, ↓reduceIte, bind_assoc, printSettings_eq]
      rfl
  | false =>
      simp only [announce, blocksBefore, verbose, Bool.false_eq_true, ↓reduceIte, bind_assoc]
      rfl

/-- A run that gives a report can be summed up. -/
theorem summary_of_enhance (done : enhance settings transformer world = .ok report after) :
    (summary? report).isSome = true := by
  obtain ⟨⟨found, last⟩, middle, running, same⟩ := bind_ok.1 done
  obtain ⟨rfl, rfl⟩ := pure_ok.1 same
  obtain ⟨_, read, reading, starting⟩ := bind_ok.1 running
  exact summary_isSome (Run.start_ok starting).agrees.aborted_iff_abort.1

/-- What holds of all that a run does itself holds of the work. -/
theorem enhance_working {holds : (α : Type) → Program α → Prop} (working : Working holds)
    (has : transformer.Has holds) (settings : Settings) :
    holds Report (enhance settings transformer) := by
  have starts : holds _ (Run.start ⟨settings, transformer, .logging⟩) :=
    Run.start_working working has
  apply working.bind
  · exact working.bind working.readClock fun _ => starts
  · intro ended
    exact working.pure _

/-- The work does not depend on what was shown. -/
theorem enhance_framed (framed : transformer.Has fun _ program => Framed program)
    (settings : Settings) : Framed (enhance settings transformer) :=
  enhance_working framed_working framed settings

theorem announce_of_sound (sound : (blocksBefore request settings).all Block.isSound = true)
    (plugins : Plugins) (world : World) :
    ∃ after, announce plugins request settings world = .ok () after ∧ world.SameButShown after := by
  obtain ⟨middle, printed, same⟩ := printAll_of_sound sound world
  obtain ⟨after, logged, later⟩ := logAll_ok (plugins.resolve settings.transformer).log middle
  refine ⟨after, ?_, same.trans later⟩
  rw [announce, bind_eq, printed]
  exact logged

/-- A report is printed if its blocks can be printed. -/
theorem printReport_of_sound (known : (summary? report).isSome = true)
    (sound : (blocksAfter request report).all Block.isSound = true) (world : World) :
    ∃ after, printReport request.format report world = .ok () after ∧
      world.SameButShown after := by
  obtain ⟨summary, isSummary⟩ := Option.isSome_iff_exists.1 known
  cases format : request.format with
  | json => exact ⟨_, rfl, _, _, _, rfl⟩
  | table =>
      simp only [blocksAfter, format, isSummary, Option.toList_some, List.all_append,
        Bool.and_eq_true, List.all_cons, List.all_nil, Bool.and_true] at sound
      obtain ⟨middle, printed, same⟩ := printAll_of_sound sound.1 world
      obtain ⟨after, summed, later⟩ := print_of_sound sound.2 middle
      refine ⟨after, ?_, same.trans later⟩
      rw [printReport, bind_eq, printed]
      simp only [printSummary, isSummary]
      exact summed

theorem printReport_of_unsound (known : (summary? report).isSome = true)
    (read : (blocksAfter request report).all Block.isRead = true)
    (unsound : (blocksAfter request report).all Block.isSound = false) (world : World) :
    Unshowable (printReport request.format report) world world := by
  obtain ⟨summary, isSummary⟩ := Option.isSome_iff_exists.1 known
  cases format : request.format with
  | json =>
      rw [blocksAfter, format] at unsound
      contradiction
  | table =>
      simp only [blocksAfter, format, isSummary, Option.toList_some, List.all_append,
        List.all_cons, List.all_nil, Bool.and_true] at unsound read
      rw [Bool.and_eq_true] at read
      rw [printReport]
      cases sound : report.blocks.all Block.isSound with
      | false => exact (printAll_of_unsound read.1 sound world).bind _
      | true =>
          rw [sound, Bool.true_and] at unsound
          obtain ⟨middle, printed, same⟩ := printAll_of_sound sound world
          apply Unshowable.of_bind printed
          simp only [printSummary, isSummary]
          exact .of_same same (print_of_unsound read.2 unsound middle)

theorem deliver_of_sound (done : enhance settings transformer world = .ok report ended)
    (sound : (blocksAfter request report).all Block.isSound = true) :
    ∃ after, deliver request settings transformer world = .ok (endingOf report) after ∧
      ended.SameButShown after := by
  obtain ⟨after, printed, same⟩ := printReport_of_sound (summary_of_enhance done) sound ended
  refine ⟨after, ?_, same⟩
  rw [deliver, bind_eq, done]
  simp only
  rw [bind_eq, printed]
  rfl

theorem deliver_of_unsound (done : enhance settings transformer world = .ok report ended)
    (read : (blocksAfter request report).all Block.isRead = true)
    (unsound : (blocksAfter request report).all Block.isSound = false) :
    Unshowable (deliver request settings transformer) world ended :=
  .of_bind done ((printReport_of_unsound (summary_of_enhance done) read unsound ended).bind _)

/-! ## The whole command -/

section

variable {holds : (α : Type) → Program α → Prop} (lawful : Lawful holds)

include lawful

theorem nodeAt_lawful (path : String) : holds (Option Node) (nodeAt path) := by
  unfold nodeAt
  dsimp only
  split
  on_goal 1 => refine lawful.bind (lawful.throw _) fun _ => ?_
  all_goals
    apply lawful.look
    · intro world
      split
      · exact lawful.pure _
      · exact lawful.pure _
    · intro one two sameDisk sameCwd
      rw [sameDisk, sameCwd]

theorem problemWith_lawful (suitability : Suitability) (value : String) :
    holds (Option String) (problemWith suitability value) := by
  cases suitability with
  | anything => exact lawful.pure _
  | file | directory =>
      apply lawful.bind (nodeAt_lawful lawful value)
      intro node
      split
      · exact lawful.pure _
      · exact lawful.pure _
  | oneOf choices ignoringCase =>
      have answers (suits : Bool) (words : String) :
          holds (Option String) (if suits then pure none else pure (some words)) := by
        cases suits with
        | true | false => exact lawful.pure _
      exact answers _ _

theorem firstUnsuitable_lawful (given : List Given) (specs : List OptionSpec) :
    holds (Option UsageError) (firstUnsuitable given specs) := by
  induction specs with
  | nil => exact lawful.pure _
  | cons spec specs ih =>
      unfold firstUnsuitable
      dsimp only
      split
      · exact ih
      · apply lawful.bind (problemWith_lawful lawful _ _)
        intro problem
        cases problem with
        | some words => exact lawful.pure _
        | none => exact ih

/-- Reading the arguments only looks at files. -/
theorem readCommand_lawful (specs : List OptionSpec) (arguments : List String) :
    holds (Except UsageError (List Given)) (readCommand specs arguments) := by
  unfold readCommand
  split
  · exact lawful.pure _
  · apply lawful.bind (firstUnsuitable_lawful lawful _ _)
    intro unsuitable
    cases unsuitable with
    | some error => exact lawful.pure _
    | none => exact lawful.pure _

end

/-- How the command ends whose work gives a report. -/
structure Work.Exits (work : Work) (plugins : Plugins) (arguments : List String)
    (world ended : World) : Prop where
  /-- It ends with the code that the report calls for, if all that it prints can be shown. -/
  exits : (blocksBefore work.request work.settings).all Block.isSound = true →
    (blocksAfter work.request work.report).all Block.isSound = true →
    ∃ after, EnhanceCommand.run plugins arguments world =
      .ok (.exit (if work.report.status = .aborted then 1 else 0)) after ∧ ended.SameButShown after
  /-- After a run of which something cannot be shown, an error escapes. -/
  escapes : (blocksBefore work.request work.settings).all Block.isSound = true →
    (blocksAfter work.request work.report).all Block.isSound = false →
    ∃ error after, error.isRead = true ∧
      EnhanceCommand.run plugins arguments world = .error (.markup error) after ∧
      ended.SameButShown after
  /-- If the settings cannot be shown, an error escapes and there is no run. -/
  prevented : (blocksBefore work.request work.settings).all Block.isSound = false →
    ∃ error after, error.isRead = true ∧
      EnhanceCommand.run plugins arguments world = .error (.markup error) after ∧
      world.Quiet after

/-- What the command works on. -/
theorem work_ok {arguments : List String} {found : Work}
    (worked : work plugins arguments world = .ok (some found) ended) :
    ∃ given read loaded transformer,
      readCommand options arguments world = .ok (.ok given) read ∧
      found.request = .ofGiven given ∧
      CommandLine.settings found.request.file found.request.overrides read =
        .ok (.ok found.settings) loaded ∧
      (plugins.resolve found.settings.transformer).result = .ok transformer ∧
      enhance found.settings transformer loaded = .ok found.report ended := by
  obtain ⟨reading, read, isRead, worked⟩ := bind_ok.1 worked
  cases reading with
  | error error =>
      obtain ⟨same, -⟩ := pure_ok.1 worked
      contradiction
  | ok given =>
      obtain ⟨loading, loaded, isLoaded, worked⟩ := bind_ok.1 worked
      cases loading with
      | error stop =>
          obtain ⟨same, -⟩ := pure_ok.1 worked
          contradiction
      | ok settings =>
          cases selects : (plugins.resolve settings.transformer).result with
          | error error =>
              simp only [selects] at worked
              obtain ⟨same, -⟩ := pure_ok.1 worked
              contradiction
          | ok transformer =>
              simp only [selects] at worked
              obtain ⟨report, after, done, worked⟩ := bind_ok.1 worked
              obtain ⟨same, rfl⟩ := pure_ok.1 worked
              cases same
              exact ⟨given, read, loaded, transformer, isRead, rfl, isLoaded, selects, done⟩

/-- The world in which the command begins its work: the options say whether the log is shown. -/
def opened (given : List Given) (world : World) : World :=
  if isGiven given "--log-json" then { world with shownFrom := some (rankOf given) } else world

theorem opened_same (given : List Given) (world : World) :
    world.SameButShown (opened given world) := by
  unfold opened
  split
  · exact ⟨_, _, _, rfl⟩
  · exact .refl world

variable {arguments : List String} {given : List Given} {read left : World}

/-- What the command makes of what comes of its work. -/
def conclude (result : Except Failure Ending) : Program Ending :=
  match result with
  | .ok (.escaped _ text) => printUnexpected text
  | .ok ending => return ending
  | .error failure => printUnexpected failure.message

theorem run_eq (isRead : readCommand options arguments world = .ok (.ok given) read) :
    EnhanceCommand.run plugins arguments world =
      (Program.catchOrdinary (perform plugins (.ofGiven given)) >>= conclude) (opened given read) := by
  rw [EnhanceCommand.run, bind_eq, isRead, opened]
  cases json : isGiven given "--log-json" with
  | true =>
      simp only [json, ↓reduceIte]
      rfl
  | false =>
      simp only [json, Bool.false_eq_true, ↓reduceIte]
      rfl

/-- An error about a text that cannot be shown escapes from the command, since it cannot be shown
either. -/
theorem run_of_unshowable (isRead : readCommand options arguments world = .ok (.ok given) read)
    (unshowable : Unshowable (perform plugins (.ofGiven given)) (opened given read) left) :
    ∃ error after, error.isRead = true ∧
      EnhanceCommand.run plugins arguments world = .error (.markup error) after ∧
      left.SameButShown after := by
  obtain ⟨text, error, broken, known, failed, ended, same⟩ := unshowable
  have caught : Program.catchOrdinary (perform plugins (.ofGiven given)) (opened given read) =
      .ok (.error (.markup error)) broken := catchOrdinary_ok.2 (.inr ⟨_, ended, rfl, rfl⟩)
  have plain : "Enhancement error: ".toList.all Markup.isPlain = true := by decide +kernel
  obtain ⟨other, isOther, again⟩ :=
    Markup.exists_error_of_message known failed "Enhancement error: " plain
  have unwritten : (message .error ("Enhancement error: " ++ error.message)).text broken.columns =
      .error other := by
    rw [message, Block.text, Block.lines, again]
    rfl
  refine ⟨other, broken, isOther, ?_, same⟩
  rw [run_eq isRead, bind_eq, caught]
  exact bind_error.2 (.inl (print_fails unwritten))

/-- The command ends with the code that the report of its work calls for, unless a text cannot be shown
that a path or a message is put into: then an error escapes, before the run if the text is about the
settings.  This holds if all tags in these texts are read: how a tag ends that calls something, or one
that names a colour by odd numbers, is not said.  All texts are of Unicode characters. -/
theorem run_exits {found : Work} (framed : ∀ transformer,
      (plugins.resolve found.settings.transformer).result = .ok transformer →
        transformer.Has fun _ program => Framed program)
    (readBefore : (blocksBefore found.request found.settings).all Block.isRead = true)
    (readAfter : (blocksAfter found.request found.report).all Block.isRead = true)
    (worked : work plugins arguments world = .ok (some found) ended) :
    found.Exits plugins arguments world ended := by
  obtain ⟨request, settings, report⟩ := found
  obtain ⟨given, read, loaded, transformer, isRead, isRequest, loads, selects, done⟩ := work_ok worked
  obtain rfl : request = .ofGiven given := isRequest
  have blind := enhance_framed (framed transformer selects) settings
  obtain ⟨ready, loads', sameReady⟩ :=
    Framed.of_ok (settings_lawful framed_working.toLawful _ _) (opened_same given read) loads
  have performs := perform_eq loads' selects
  constructor
  · intro before after
    obtain ⟨begun, announced, same⟩ := announce_of_sound before plugins ready
    obtain ⟨ended', done', sameEnded⟩ := blind.of_ok (sameReady.trans same) done
    obtain ⟨last, delivered, later⟩ := deliver_of_sound done' after
    refine ⟨last, ?_, sameEnded.trans later⟩
    rw [bind_eq, announced] at performs
    have caught := catchOrdinary_ok.2 (.inl ⟨_, performs.trans delivered, rfl⟩)
    have code : endingOf report = .exit (if report.status = .aborted then 1 else 0) := by
      simp [endingOf, Report.isAborted]
    rw [run_eq isRead, bind_eq, caught, ← code]
    rfl
  · intro before after
    obtain ⟨begun, announced, same⟩ := announce_of_sound before plugins ready
    obtain ⟨ended', done', sameEnded⟩ := blind.of_ok (sameReady.trans same) done
    have delivers := deliver_of_unsound done' readAfter after
    exact run_of_unshowable isRead
      (.of_eq performs (.of_bind announced (.of_same sameEnded delivers)))
  · intro before
    have announces := (printAll_of_unsound readBefore before ready).bind fun _ =>
      (plugins.resolve settings.transformer).log.forM Program.log
    obtain ⟨error, last, isRead', escapes, same⟩ :=
      run_of_unshowable isRead (.of_eq performs (announces.bind _))
    have quietRead := Keeps.of_ok (readCommand_lawful quiet_lawful _ _) isRead
    have quietLoad := Keeps.of_ok (settings_lawful quiet_lawful _ _) loads
    exact ⟨error, last, isRead', escapes, (quietRead.trans quietLoad).trans (sameReady.trans same).quiet⟩

/-- Who names no transformer gets the one that is built in. -/
theorem resolve_unnamed (unnamed : plugins.preferred = none) :
    (plugins.resolve none).result = .ok .noOp := by
  have noReference : Text.splitFirst ':' Plugins.builtIn.toList = none := by decide +kernel
  have small : Plugins.builtIn.map Char.toLower = Plugins.builtIn := by decide +kernel
  have created : plugins.create Plugins.builtIn = ⟨[], .ok (.ofTransformer .noOp)⟩ := by
    rw [Plugins.create, noReference]
    exact if_pos small
  simp only [Plugins.resolve, Plugins.selected, Plugins.defaultName, unnamed, Option.filter_none,
    Option.getD_none, created, Selection.map, Except.map, Object.toTransformer_ofTransformer]

/-- A directory has a name that reads like a tag that ends a style. -/
def Sample.bracketed : List String :=
  ["--dir", "a[/b]", "--format", "json"]

/-- A world without files. -/
def Sample.nowhere : World :=
  { now := default }

/-- The command ends as it should if the name of the directory is not printed. -/
theorem run_exits_bracketed : ∃ (found : Work) (ended after : World),
    work {} Sample.bracketed Sample.nowhere = .ok (some found) ended ∧
      found.report.status = .skipped ∧
      EnhanceCommand.run {} Sample.bracketed Sample.nowhere = .ok (.exit 0) after ∧
      ended.SameButShown after := by
  have ends : (work {} Sample.bracketed).endsWith (fun found => found.any fun found =>
      found.report.status = .skipped && found.settings.transformer = none &&
        (blocksBefore found.request found.settings).all Block.isRead &&
        (blocksBefore found.request found.settings).all Block.isSound &&
        (blocksAfter found.request found.report).all Block.isRead &&
        (blocksAfter found.request found.report).all Block.isSound) Sample.nowhere = true := by
    decide +kernel
  obtain ⟨found?, ended, worked, checked⟩ := ok_of_endsWith ends
  cases found? with
  | none => contradiction
  | some found =>
      simp only [Option.any_some, Bool.and_eq_true, decide_eq_true_eq] at checked
      obtain ⟨⟨⟨⟨⟨skipped, unnamed⟩, readBefore⟩, before⟩, readAfter⟩, after⟩ := checked
      have framed : ∀ transformer, (({} : Plugins).resolve found.settings.transformer).result =
          .ok transformer → transformer.Has fun _ program => Framed program := by
        intro transformer selects
        rw [unnamed, resolve_unnamed rfl] at selects
        cases selects
        exact fun _ _ _ => framed_pure _
      obtain ⟨last, exits, same⟩ := (run_exits framed readBefore readAfter worked).exits before after
      rw [skipped] at exits
      exact ⟨found, ended, last, worked, skipped, exits, same⟩

/-- An error escapes from the command if the name of the directory is printed, although its work is only
skipped. -/
theorem run_escapes_bracketed : ∃ (found : Work) (ended after : World) (error : MarkupError),
    work {} ("-v" :: Sample.bracketed) Sample.nowhere = .ok (some found) ended ∧
      found.report.status = .skipped ∧
      EnhanceCommand.run {} ("-v" :: Sample.bracketed) Sample.nowhere =
        .error (.markup error) after := by
  have ends : (work {} ("-v" :: Sample.bracketed)).endsWith (fun found => found.any fun found =>
      found.report.status = .skipped) Sample.nowhere = true := by
    decide +kernel
  have fails : (EnhanceCommand.run {} ("-v" :: Sample.bracketed)).failsWith
      (fun failure => failure matches .markup _) Sample.nowhere = true := by
    decide +kernel
  obtain ⟨found?, ended, worked, checked⟩ := ok_of_endsWith ends
  obtain ⟨failure, after, failed, isMarkup⟩ := error_of_failsWith fails
  cases found? with
  | none => contradiction
  | some found =>
      cases failure with
      | markup error => exact ⟨found, ended, after, error, worked, of_decide_eq_true checked, failed⟩
      | _ => contradiction

end EnhanceCommand

end CommandLine

end Enhance
