import Enhance.Proofs.Grounded
import Enhance.Proofs.Invocation.Containment
import Enhance.Proofs.Run.Settled

/-!
# What a run scans

A run that asks for features scans its directory, or there is nothing in it to scan: in either case its
report shows just what a scan of the directory finds (`Run.startNew_scans`).  With the transformer that
leaves every class as it is the run also comes to its report, whatever the system does, if the scan of the
directory returns (`Run.startNew_returns`).
-/

namespace Enhance

open Program

theorem World.SameTree.of_sameButLog {one two : World} (same : one.SameButLog two) :
    one.SameTree two := by
  obtain ⟨log, rfl⟩ := same
  exact ⟨rfl, rfl, rfl⟩

/-! ## Roots that are not there -/

/-- What is not there is no entry of any kind. -/
theorem Disk.ask_of_not_isThere {disk : Listing} {cwd : List String} {path : Path}
    (absent : isThere disk cwd path = .ok false) (question : Node → Bool) :
    ask disk cwd path question = .ok false := by
  rw [isThere, ask] at absent
  rw [ask]
  cases noNul : hasNul path with
  | true => rfl
  | false =>
      rw [noNul] at absent
      cases found : stat disk cwd path with
      | ok node => simp [found] at absent
      | error code => simpa [found] using absent

/-- If the system tells whether there is a directory, it tells whether there is anything. -/
theorem Disk.isThere_of_isDir {disk : Listing} {cwd : List String} {path : Path} {isOne : Bool}
    (told : isDir disk cwd path = .ok isOne) : ∃ there, isThere disk cwd path = .ok there := by
  rw [isDir, ask] at told
  rw [isThere, ask]
  cases noNul : hasNul path with
  | true => exact ⟨false, rfl⟩
  | false =>
      rw [noNul] at told
      cases found : stat disk cwd path with
      | ok node => exact ⟨true, rfl⟩
      | error code => exact ⟨isOne, by simpa [found] using told⟩

namespace Scanner

variable {scanner : Scanner} {root : Path} {world : World}

/-- A scan finds the same wherever it looks at the same tree. -/
theorem scan_of_sameTree {other after : World} {artifacts : Artifacts} (same : world.SameTree other)
    (done : scanner.scan root world = .ok artifacts after) :
    ∃ after', scanner.scan root other = .ok artifacts after' := by
  obtain ⟨after', done', -⟩ := (scan_lawful grounded_lawful scanner root).of_ok same done
  exact ⟨after', done'⟩

theorem scan_of_missing (missing : Disk.isDir world.disk world.cwd root = .ok false) :
    ∃ after, scanner.scan root world = .ok ⟨root, []⟩ after := by
  have looked : listing? root world = .ok none world :=
    bind_ok.2 ⟨false, world, askSystem_ok.2 ⟨missing, rfl⟩, pure_ok.2 ⟨rfl, rfl⟩⟩
  exact ⟨_, bind_ok.2 ⟨none, world, looked, bind_ok.2 ⟨(), _, modify_ok.2 rfl, pure_ok.2 ⟨rfl, rfl⟩⟩⟩⟩

/-- A scan that returns was told whether its root is a directory. -/
theorem isDir_of_scan {artifacts : Artifacts} {after : World}
    (done : scanner.scan root world = .ok artifacts after) :
    ∃ isOne, Disk.isDir world.disk world.cwd root = .ok isOne := by
  obtain ⟨found, first, looked, -⟩ := bind_ok.1 done
  exact ⟨_, (listing?_ok looked).2.1⟩

end Scanner

namespace Run

variable {run : Run} {progress : Progress} {world after : World} {ending : Ending}

/-! ## What the report shows -/

/-- The report of a run that asks for features shows what a scan of the directory finds. -/
theorem execute_scans (fresh : progress.IsFresh) (asks : run.settings.capabilities.any = true)
    (done : run.execute progress world = .ok ending after) :
    ∃ searching searched, world.SameButLog searching ∧
      run.Scans searching ending.1.scanned searched := by
  obtain ⟨_, entered, entering, done⟩ := bind_ok.1 done
  obtain ⟨rfl, log, rfl⟩ := enter_same entering
  rw [asks] at done
  obtain ⟨_, scanning, entering', done⟩ := bind_ok.1 done
  obtain ⟨rfl, log', rfl⟩ := enter_same entering'
  obtain ⟨isThere, asked, asking, done⟩ := bind_ok.1 done
  obtain ⟨answered, rfl⟩ := askSystem_ok.1 asking
  refine ⟨{ world with log := log' }, ?_⟩
  split at done
  · next absent =>
      have ended := skip_ok done
      have nothing : ending.1.scanned = [] := by
        rw [ended.shows.scanned, ended.progress_eq]
        exact fresh.scanned
      obtain rfl : isThere = false := by simpa using absent
      obtain ⟨searched, scan⟩ := Scanner.scan_of_missing (Disk.ask_of_not_isThere answered Node.isDir)
      exact ⟨searched, ⟨log', rfl⟩, _, scan, nothing.symm⟩
  · obtain ⟨artifacts, searched, scan, done⟩ := bind_ok.1 done
    refine ⟨searched, ⟨log', rfl⟩, artifacts, scan, ?_⟩
    split at done
    · have ended := skip_ok done
      rw [ended.shows.scanned, ended.progress_eq]
      rfl
    · rcases prepare_ok done with
        ⟨diagnostic, -, -, ended⟩ | ⟨classpath, problems, fates, abort, begun, last, -, -, -, -, -, ended⟩
      all_goals
        rw [ended.shows.scanned, ended.progress_eq]
        rfl

theorem readClock_sameTree {reading : Float} (done : readClock world = .ok reading after) :
    world.SameTree after := by
  obtain ⟨_, clock, read⟩ := readClock_eq world
  cases done.symm.trans read
  exact ⟨rfl, rfl, rfl⟩

theorem begin_sameTree (done : begin world = .ok progress after) : world.SameTree after := by
  obtain ⟨_, read, reading, same⟩ := bind_ok.1 done
  obtain ⟨-, rfl⟩ := pure_ok.1 same
  exact readClock_sameTree reading

/-- Before a run does anything it has only looked at the clock. -/
theorem opening_sameTree {reading : Float} {made begun : World}
    (making : readClock world = .ok reading made) (beginning : begin made = .ok progress begun) :
    world.SameTree { begun with spansBegun := begun.spansBegun + 1 } :=
  have begins := (readClock_sameTree making).trans (begin_sameTree beginning)
  begins.trans ⟨rfl, rfl, rfl⟩

/-- The report of a whole run shows what a scan of the directory finds, too. -/
theorem startNew_scans (asks : run.settings.capabilities.any = true)
    (done : run.startNew world = .ok ending after) :
    ∃ searching searched, world.SameTree searching ∧
      run.Scans searching ending.1.scanned searched := by
  obtain ⟨_, made, making, done⟩ := bind_ok.1 done
  obtain ⟨progress, begun, beginning, done⟩ := bind_ok.1 done
  obtain ⟨⟨report, last⟩, traced, tracing, done⟩ := bind_ok.1 done
  obtain ⟨_, logged, -, same⟩ := bind_ok.1 done
  obtain ⟨rfl, -⟩ := pure_ok.1 same
  obtain ⟨ended, executing, -⟩ := traced_ok.1 tracing
  obtain ⟨searching, searched, search, scans⟩ := execute_scans (begin_ok beginning).1 asks executing
  have opens := opening_sameTree making beginning
  exact ⟨searching, searched, opens.trans (.of_sameButLog search), scans⟩

end Run

/-! ## That there is a report -/

namespace Program

variable {α β : Type} {world : World}

theorem Brings.returns {program : Program α} {property : α → Prop}
    (brings : program.Brings world property) : program.Returns world := by
  obtain ⟨value, ⟨after, done, -⟩, -⟩ := brings
  exact ⟨value, after, done⟩

theorem Returns.map {program : Program α} (returns : program.Returns world) (image : α → β) :
    (image <$> program).Returns world := by
  obtain ⟨value, after, done⟩ := returns
  exact ⟨image value, after, map_ok.2 ⟨value, done, rfl⟩⟩

theorem Returns.traced {program : Program α} {name : String} {attributes : List (String × Json)}
    (returns : program.Returns { world with spansBegun := world.spansBegun + 1 }) :
    (traced name attributes program).Returns world := by
  obtain ⟨value, after, done⟩ := returns
  exact ⟨value, _, traced_ok.2 ⟨after, done, rfl⟩⟩

end Program

namespace Invocation

/-- The transformer that leaves every class as it is makes no new bytes, and with it every class file has
an outcome. -/
theorem run_noOp {path : Path} (noNul : Disk.hasNul path = false) (classpath : Classpath)
    (capabilities : Capabilities) (world : World) :
    ∃ outcome after, Invocation.run ⟨.noOp, classpath, capabilities⟩ path world = .ok outcome after ∧
      ∀ bytes, outcome ≠ .transformed bytes := by
  cases reads : readClass path world with
  | error failure read =>
      obtain ⟨error, rfl⟩ := readClass_error noNul reads
      obtain ⟨after, done, -⟩ := run_of_unread ⟨.noOp, classpath, capabilities⟩ reads
      exact ⟨_, after, done, nofun⟩
  | ok given read =>
      have called : transforming ⟨.noOp, classpath, capabilities⟩ path given read =
          (.ok .nothing, handing ⟨.noOp, classpath, capabilities⟩ path given read) := rfl
      obtain ⟨_, after, judges, done, -⟩ := run_of_called reads called rfl
      cases judges
      exact ⟨_, after, done, nofun⟩

end Invocation

namespace Run

variable {run : Run} {progress : Progress} {world : World}

theorem enter_returns (progress : Progress) (state : RunState) (world : World) :
    (enter progress state).Returns world :=
  (returns_log _ _).bind fun _ _ _ => returns_pure _ _

theorem finish_returns (run : Run) (progress : Progress) (status : RunStatus)
    (skipReason : Option String) (world : World) :
    (run.finish progress status skipReason).Returns world :=
  closing_returns _ _ _ _ _ _ _

theorem skip_returns (run : Run) (progress : Progress) (level : Level) (reason words : String)
    (fields : List (String × Json)) (world : World) :
    (run.skip progress level reason fields words).Returns world :=
  (returns_log _ _).bind fun _ _ _ => finish_returns _ _ _ _ _

theorem judge_returns {invocation : Invocation} {path : Path} (idle : invocation.transformer = .noOp)
    (noNul : Disk.hasNul path = false) (world : World) :
    (run.judge invocation path).Returns world := by
  obtain ⟨transformer, classpath, capabilities⟩ := invocation
  obtain rfl : transformer = .noOp := idle
  have invokes := Invocation.run_noOp noNul classpath capabilities
    { world with spansBegun := world.spansBegun + 1 }
  obtain ⟨outcome, ended, done, unwritten⟩ := invokes
  refine Returns.bind (Returns.traced ⟨outcome, ended, done⟩) fun found middle traces => ?_
  obtain ⟨ended', done', -⟩ := traced_ok.1 traces
  cases done.symm.trans done'
  cases outcome with
  | unchanged => exact (returns_log _ _).bind fun _ _ _ => returns_pure _ _
  | failed message cause =>
      have refuses : (run.refuse (transformDiagnostic path message cause)).Gives middle _ :=
        refuse_gives _ middle
      obtain ⟨after, refused, -⟩ := refuses
      exact ⟨_, after, refused⟩
  | transformed bytes => exact absurd rfl (unwritten bytes)

theorem processAll_returns {invocation : Invocation} {paths : List Path}
    (idle : invocation.transformer = .noOp) (noNul : ∀ path ∈ paths, Disk.hasNul path = false)
    (progress : Progress) (world : World) :
    (run.processAll invocation progress paths).Returns world := by
  induction paths generalizing progress world with
  | nil => exact returns_pure _ _
  | cons path paths ih =>
      obtain ⟨plain, others⟩ := List.forall_mem_cons.1 noNul
      have processes : (run.process invocation progress path).Returns world := by
        rw [process_eq]
        exact (judge_returns idle plain world).map _
      refine processes.bind fun found middle _ => ?_
      obtain ⟨next, abort⟩ := found
      cases abort with
      | some diagnostic => exact returns_pure _ _
      | none => exact ih others next middle

theorem take_returns {classpath : Classpath} (idle : run.transformer = .noOp)
    (noNul : ∀ path ∈ progress.scanned, Disk.hasNul path = false) (world : World) :
    (run.take (.ready progress classpath)).Returns world := by
  have processes : (run.processAll (run.invocation classpath) progress progress.scanned).Returns world :=
    processAll_returns idle noNul progress world
  refine processes.bind fun found middle _ => ?_
  obtain ⟨last, abort⟩ := found
  cases abort with
  | none => exact finish_returns _ _ _ _ _
  | some diagnostic => exact closing_returns _ _ _ _ _ _ _

section

variable (nameable : ∀ candidate ∈ Classpath.candidates run.settings.classesDir run.settings.dependencies,
    candidate.IsNameable) {artifacts : Artifacts} {searched : World}
  (scan : Scanner.scan ⟨run.settings.extension⟩ run.settings.classesDir world = .ok artifacts searched)

include nameable scan

theorem approach_returns (progress : Progress) : (run.approach progress).Returns world := by
  refine (enter_returns _ _ world).bind fun checked entered entering => ?_
  obtain ⟨-, log, rfl⟩ := enter_same entering
  split
  · exact (skip_returns _ _ _ _ _ _ _).map _
  · refine (enter_returns _ _ _).bind fun scanning entered' entering' => ?_
    obtain ⟨-, log', rfl⟩ := enter_same entering'
    obtain ⟨isOne, told⟩ := Scanner.isDir_of_scan scan
    obtain ⟨there, answers⟩ := Disk.isThere_of_isDir told
    have asks : (askSystem fun disk cwd => Disk.isThere disk cwd run.settings.classesDir).Returns
        { world with log := log' } := ⟨there, _, askSystem_ok.2 ⟨answers, rfl⟩⟩
    refine asks.bind fun isThere asked asking => ?_
    obtain ⟨-, rfl⟩ := askSystem_ok.1 asking
    split
    · exact (skip_returns _ _ _ _ _ _ _).map _
    · have same : world.SameTree { world with log := log' } := ⟨rfl, rfl, rfl⟩
      obtain ⟨searched', scan'⟩ := Scanner.scan_of_sameTree same scan
      refine Returns.bind ⟨artifacts, searched', scan'⟩ fun found middle _ => ?_
      split
      · exact (skip_returns _ _ _ _ _ _ _).map _
      · exact (equip_brings _ _ nameable).returns

variable (idle : run.transformer = .noOp)
  (noNul : ∀ path ∈ artifacts.paths, Disk.hasNul path = false)

include idle noNul

theorem execute_returns (progress : Progress) : (run.execute progress).Returns world := by
  rw [execute_eq]
  refine (approach_returns nameable scan progress).bind fun approach middle approaching => ?_
  cases approach with
  | ended ending => exact returns_pure _ _
  | ready next classpath =>
      obtain ⟨searching, searched', search, artifacts', scan', same⟩ := (approach_ok approaching).scans
      obtain ⟨_, scan''⟩ := Scanner.scan_of_sameTree (.of_sameButLog search) scan
      cases scan'.symm.trans scan''
      rw [same] at noNul
      exact take_returns idle noNul middle

/-- With the transformer that leaves every class as it is a run comes to its report, if the scan of its
directory returns. -/
theorem startNew_returns : run.startNew.Returns world := by
  refine (returns_readClock world).bind fun _ made making => ?_
  have begins : begin.Returns made := (begin_brings made).returns
  refine begins.bind fun progress begun beginning => ?_
  obtain ⟨searched', scan'⟩ := Scanner.scan_of_sameTree (opening_sameTree making beginning) scan
  refine (execute_returns nameable scan' idle noNul progress).traced.bind fun ending traced _ => ?_
  obtain ⟨report, last⟩ := ending
  exact (returns_log _ _).bind fun _ _ _ => returns_pure _ _

end

end Run

end Enhance
