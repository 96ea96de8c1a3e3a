import Enhance.Proofs.Disk.Through
import Enhance.Proofs.Run.Effect

/-!
# What the transformer of a run is handed

Two of the paths that a scan finds may lead to the same file, but then one of them is a link.  A run that
has rewritten the file hands the new bytes to the transformer when it comes to such a link, and otherwise
every class file is handed over with the bytes that it held before the run (`Runner.call_hands`).
-/

namespace Enhance

open Program

/-- A path leads to a link. -/
def World.IsLink (world : World) (path : Path) : Prop :=
  ∃ row target, Disk.lookup world.disk world.cwd false path = .found row (.link target)

/-- A path leads to a file at a place, all links followed. -/
def World.LeadsToFile (world : World) (path : Path) (place : List String) (data : FileData) : Prop :=
  Disk.lookup world.disk world.cwd true path = .found place (.file data)

/-- Of two paths that lead to the same file, one is a link. -/
def World.Parts (world : World) (paths : List Path) : Prop :=
  ∀ one ∈ paths, ∀ two ∈ paths, one ≠ two → ∀ place data,
    world.LeadsToFile one place data → world.LeadsToFile two place data →
      world.IsLink one ∨ world.IsLink two

namespace Scanner

variable {scanner : Scanner} {world after : World}

/-- A path that was found and is no link leads to the file at its place. -/
theorem Placed.rowOf_eq {paths : List Path} {rowOf : Path → List String} {path : Path}
    {place : List String} {data : FileData} (placed : Placed world.disk world.cwd paths rowOf)
    (member : path ∈ paths) (leads : world.LeadsToFile path place data)
    (noLink : ¬ world.IsLink path) : rowOf path = place := by
  obtain ⟨node, there, plain⟩ := placed.there path member
  have leadsTo := placed.leads path member (Disk.fits_of_lookup leads)
  cases node with
  | dir inside => cases plain
  | link target => exact absurd ⟨_, target, leadsTo.lookup there⟩ noLink
  | file other =>
      cases leadsTo.endsIn leads with
      | file there' same => exact same.symm
      | link there' => simp [there] at there'

theorem Placed.parts {paths : List Path} {rowOf : Path → List String}
    (placed : Placed world.disk world.cwd paths rowOf) : world.Parts paths := by
  intro one isOne two isTwo ne place data leads leads'
  by_cases noLink : world.IsLink one ∨ world.IsLink two
  · exact noLink
  · rw [not_or] at noLink
    have same := placed.rowOf_eq isOne leads noLink.1
    rw [← placed.rowOf_eq isTwo leads' noLink.2] at same
    exact absurd (placed.eq_of_rowOf one isOne two isTwo same) ne

end Scanner

namespace Run

/-- A class file is handed over with the bytes that it held at the start, or it is a link to a file to
which another path leads that was written before it, or could not be written. -/
structure Hands (paths : List Path) (written : Path → Prop) (start : World) (call : TransformerCall) :
    Prop where
  member : call.path ∈ paths
  given : ∃ place data, start.LeadsToFile call.path place data ∧
    (call.data = data.bytes ∨ start.IsLink call.path ∧ ∃ other, written other ∧
      [other, call.path].Sublist paths ∧ start.LeadsToFile other place data)

variable {run : Run} {invocation : Invocation} {strategy : WriteStrategy}
  {rule : ClassFile → Except Failure Answer} {rowOf : Path → List String}
  {start world after : World} {fates rest : Fates} {path : Path} {paths : List Path}
  {verdict : Verdict} {written : Path → Prop}

/-- Class files that were found and lead to files. -/
structure Found (start : World) (rowOf : Path → List String) (paths : List Path) : Prop where
  placed : Scanner.Placed start.disk start.cwd paths rowOf
  stat : ∀ path ∈ paths, Disk.Fits path →
    ∃ data, Disk.stat start.disk start.cwd path = .ok (.file data)

theorem Found.endsIn (found : Found start rowOf paths) {other : Path} (member : other ∈ paths)
    (fits : Disk.Fits other) : ∃ place data, start.LeadsToFile other place data ∧
      Disk.EndsIn start.disk (rowOf other) place data := by
  obtain ⟨data, there⟩ := found.stat other member fits
  obtain ⟨place, leads⟩ := Disk.lookup_of_stat there
  exact ⟨place, data, leads, (found.placed.leads other member fits).endsIn leads⟩

/-- What is read of a class file when the run comes to it. -/
theorem hands_of_read {given : List UInt8} {features : List String} (found : Found start rowOf paths)
    (effect : Effect strategy rule rowOf start fates world)
    (inFront : Fates.paths (fates ++ (path, verdict) :: rest) <+: paths)
    (written_of : ∀ fate ∈ fates, fate.2.IsAboutWriting → written fate.1)
    (read : Classpath.readFile world.disk world.cwd path = .ok given) :
    Hands paths written start ⟨path, given, features⟩ := by
  have awaits := Effect.awaits_of_prefix found.placed inFront
  obtain ⟨now, there, rfl⟩ := Classpath.stat_of_readFile read
  obtain ⟨fits, leaf, first⟩ := awaits.of_read effect read
  obtain ⟨place, data, leads, ends⟩ := found.endsIn awaits.member fits
  refine ⟨awaits.member, place, data, leads, ?_⟩
  by_cases isLink : start.IsLink path
  · rcases Disk.lookup_file_of_sameWays effect.ways leads with same | ⟨row, changed, ends'⟩
    · rw [← effect.cwd] at same
      rw [Disk.stat_of_lookup same] at there
      cases there
      exact .inl rfl
    · -- Only a class file that was written stands where something has changed.
      have isRow : ∃ fate ∈ fates, fate.2.IsAboutWriting ∧ rowOf fate.1 = row := by
        by_contra none
        refine absurd (effect.elsewhere row fun fate member isAbout same =>
          none ⟨fate, member, isAbout, same⟩) (not_or.2 ⟨changed, ?_⟩)
        intro strayed
        exact ends'.at?_ne_none strayed.absent
      obtain ⟨fate, member, isAbout, rfl⟩ := isRow
      obtain ⟨place', data', leads', ends''⟩ :=
        found.endsIn (awaits.known fate member) (effect.fits fate member isAbout)
      obtain ⟨rfl, rfl⟩ := ends'.unique ends''
      refine .inr ⟨isLink, fate.1, written_of fate member isAbout, ?_, leads'⟩
      refine List.Sublist.trans ?_ inFront.sublist
      rw [Fates.paths, List.map_append, ← List.singleton_append]
      have isOther : fate.1 ∈ fates.map (·.1) := List.mem_map_of_mem member
      exact (List.singleton_sublist.2 isOther).append (by simp)
  · have same := found.placed.rowOf_eq awaits.member leads isLink
    exact .inl (first data (same ▸ ends.at?_place)).symm

/-- Processing a class file hands what is read of it to the transformer, at most once. -/
theorem Handled.handed (handled : Handled run invocation path world verdict after) :
    after.calls = world.calls ∨ ∃ given features,
      Classpath.readFile world.disk world.cwd path = .ok given ∧
        after.calls = ⟨path, given, features⟩ :: world.calls := by
  have asked {outcome : Outcome} {middle : World}
      (invoked : invocation.Invoked path world outcome middle) (same : after.calls = middle.calls) :
      after.calls = world.calls ∨ ∃ given features,
        Classpath.readFile world.disk world.cwd path = .ok given ∧
          after.calls = ⟨path, given, features⟩ :: world.calls := by
    rw [same]
    exact invoked.handed
  cases handled with
  | unchanged invoked quiet | untransformed invoked quiet => exact asked invoked quiet.calls
  | unwritten invoked write quiet | enhanced invoked write quiet =>
      exact asked invoked (quiet.calls.trans (WriteStrategy.write_sameCalls write).calls)

/-- What class files are handed over with when they are processed one after the other. -/
theorem hands_of_processed (follows : invocation.transformer.Follows rule)
    (found : Found start rowOf paths) (inFront : Fates.paths (fates ++ rest) <+: paths)
    (written_of : ∀ fate ∈ fates ++ rest, fate.2.IsAboutWriting → written fate.1)
    (effect : Effect run.settings.writeStrategy rule rowOf start fates world)
    (processed : Processed run invocation world rest after) :
    ∃ calls, after.calls = calls ++ world.calls ∧ ∀ call ∈ calls, Hands paths written start call := by
  induction processed generalizing fates with
  | nil world => exact ⟨[], rfl, by simp⟩
  | @cons path verdict rest world middle after handled processed ih =>
      have awaits := Effect.awaits_of_prefix found.placed inFront
      have read_hands {given : List UInt8} {features : List String}
          (read : Classpath.readFile world.disk world.cwd path = .ok given) :
          Hands paths written start ⟨path, given, features⟩ :=
        hands_of_read found effect inFront
          (fun fate member => written_of fate (List.mem_append_left _ member)) read
      rw [List.append_cons] at inFront written_of
      obtain ⟨calls, later, hands⟩ := ih inFront written_of (effect.step follows awaits handled)
      rcases handled.handed with same | ⟨given, features, read, once⟩
      · exact ⟨calls, later.trans (congrArg _ same), hands⟩
      · refine ⟨calls ++ [⟨path, given, features⟩], ?_, ?_⟩
        · rw [later, once, List.append_assoc]
          rfl
        · rw [List.forall_mem_append]
          exact ⟨hands, by simpa using read_hands read⟩

theorem Scans.found (scans : run.Scans world paths after) (proper : world.disk.isProper = true) :
    ∃ rowOf, Found world rowOf paths := by
  obtain ⟨rowOf, placed⟩ := scans.placed proper
  obtain ⟨artifacts, scan, rfl⟩ := scans
  exact ⟨rowOf, placed, fun path member => Scanner.scan_stat proper scan member⟩

/-- Whatever course a run takes, class files are handed over with the bytes that they held before it, but
for links to files that it has written. -/
theorem Course.hands {ending : Ending} (proper : world.disk.isProper = true)
    (follows : run.transformer.Follows rule) (course : Course run world ending after) :
    ∃ calls, after.calls = calls ++ world.calls ∧
      ∀ call ∈ calls, Hands ending.1.scanned ending.1.IsAboutWriting world call := by
  cases course with
  | skipped way comprises shows quiet => exact ⟨[], quiet.calls, by simp⟩
  | unresolved quiet scan stage failFast comprises shows quietAfter =>
      exact ⟨[], ((quiet.trans scan.quiet).trans quietAfter).calls, by simp⟩
  | @processed paths classpath problems fates abort last report searching searched begun ended after
      quiet scan stages tolerated quietBuild processed cut comprises shows quietAfter =>
      have begins := (quiet.trans scan.quiet).trans quietBuild
      obtain ⟨rowOf, found⟩ := scan.found (quiet.disk ▸ proper)
      have found : Found world rowOf paths := by
        obtain ⟨placed, stat⟩ := found
        rw [quiet.disk, quiet.cwd] at placed stat
        exact ⟨placed, stat⟩
      have nothing : Effect run.settings.writeStrategy rule rowOf world [] begun :=
        (Effect.nil world).of_quiet begins
      have isAbout : ∀ fate ∈ [] ++ fates, fate.2.IsAboutWriting → report.IsAboutWriting fate.1 :=
        fun fate member isWritten => (isAboutWriting_iff processed.located stages
          (shows.enhanced.trans comprises.enhanced)
          (shows.diagnostics.trans comprises.diagnostics)).2 ⟨fate, member, isWritten, rfl⟩
      have inFront : Fates.paths ([] ++ fates) <+: paths := cut.prefix_paths
      obtain ⟨calls, later, hands⟩ := hands_of_processed follows found inFront isAbout nothing processed
      refine ⟨calls, ?_, ?_⟩
      · rw [quietAfter.calls, later, begins.calls]
      · rw [shows.scanned, comprises.scanned]
        exact hands

end Run

/-! ## Files that two paths lead to -/

namespace Sample

/-- A directory with a class file and a link to it. -/
def doubled : World :=
  { disk := .dir "c" (.file "A.class" ⟨[0x61], 0o644, false⟩ (.link "B.class" "A.class" .empty)) .empty
    now := default }

/-- The paths of the class file and of the link. -/
def doubledPaths : Path × Path :=
  (⟨.root, ["c", "A.class"], isName_first⟩, ⟨.root, ["c", "B.class"], isName_second⟩)

/-- A runner that capitalises letters. -/
def capitalising : Runner :=
  { run := run (.capitals "Capitals") true
    progress := { startedAt := default, startTime := 0.0 } }

theorem capitals_follows : (Transformer.capitals "Capitals").Follows
    fun file => .ok (.bytes (file.data.map Transformer.upperByte)) :=
  fun _ _ _ _ => ⟨rfl, rfl, rfl⟩

/-- A call of a runner, and the calls of the transformer that were made until then. -/
def calling (runner : Runner) : Program (Report × List TransformerCall) := do
  let ending ← runner.call
  pure (ending.1, (← get).calls)

theorem calling_ok {runner : Runner} {world after : World} {report : Report}
    {calls : List TransformerCall} (done : calling runner world = .ok (report, calls) after) :
    ∃ next, runner.call world = .ok (report, next) after ∧ after.calls = calls := by
  obtain ⟨ending, called, calling, done⟩ := bind_ok.1 done
  rw [get_bind] at done
  obtain ⟨same, rfl⟩ := pure_ok.1 done
  cases same
  exact ⟨ending.2, calling, rfl⟩

end Sample

namespace Runner

variable {world : World}

/-- Of two paths that a scan of a tree of files finds and that lead to the same file, one is a link.  A
run whose transformer answers by a rule and leaves the files alone hands over every class file with the
bytes that it held before the run, unless it is a link to a file to which an earlier class file led that
was written, or could not be written. -/
theorem call_hands (proper : world.disk.isProper = true) :
    (∀ (scanner : Scanner) (root : Path) (artifacts : Artifacts) (after : World),
      scanner.scan root world = .ok artifacts after → world.Parts artifacts.paths) ∧
    ∀ (runner next : Runner) (rule : ClassFile → Except Failure Answer) (report : Report)
      (after : World), runner.run.transformer.Follows rule →
        runner.call world = .ok (report, next) after →
          ∃ calls, after.calls = calls ++ world.calls ∧
            ∀ call ∈ calls, Run.Hands report.scanned report.IsAboutWriting world call := by
  constructor
  · intro scanner root artifacts after done
    obtain ⟨rowOf, placed⟩ := Scanner.scan_placed proper done
    exact placed.parts
  · intro runner next rule report after follows done
    obtain ⟨started, -⟩ := start_of_call done
    exact (Run.start_ok started).hands proper follows

/-- A run over a class file and a link to it. -/
theorem call_hands_doubled : ∃ (report : Report) (calls : List TransformerCall),
    Sample.doubled.disk.isProper = true ∧ report.scanned.length = 2 ∧
      Sample.doubled.Parts report.scanned ∧ calls.length = 2 ∧
      ∀ call ∈ calls, Run.Hands report.scanned report.IsAboutWriting Sample.doubled call := by
  have proper : Sample.doubled.disk.isProper = true := by decide +kernel
  obtain ⟨parts, hands⟩ := call_hands proper
  have scans : (Scanner.scan {} Sample.capitalising.run.settings.classesDir).endsWith
      (fun artifacts => artifacts.paths = [Sample.doubledPaths.1, Sample.doubledPaths.2])
      Sample.doubled = true := by
    decide +kernel
  have ends : (Sample.calling Sample.capitalising).endsWith (fun ending => ending.2.length = 2 &&
      ending.1.scanned = [Sample.doubledPaths.1, Sample.doubledPaths.2]) Sample.doubled = true := by
    decide +kernel
  obtain ⟨artifacts, searched, scan, found⟩ := ok_of_endsWith scans
  obtain ⟨⟨report, calls⟩, after, done, checked⟩ := ok_of_endsWith ends
  simp only [Bool.and_eq_true, decide_eq_true_eq] at found checked
  obtain ⟨next, called, same⟩ := Sample.calling_ok done
  obtain ⟨handed, made, each⟩ := hands _ _ _ _ _ Sample.capitals_follows called
  obtain rfl : calls = handed := same.symm.trans (made.trans (List.append_nil _))
  have parts := parts _ _ _ _ scan
  rw [found, ← checked.2] at parts
  exact ⟨report, calls, proper, by simp [checked.2], parts, checked.1, each⟩

/-- A scan finds a class file and a link to it, which lead to the same file, and a run that finds them has
rewritten the class file when it hands it over once more as the link. -/
theorem call_hands_rewritten : ∃ (one two : Path) (place : List String) (data : FileData)
    (artifacts : Artifacts) (report : Report) (next : Runner) (searched after : World)
    (bytes : List UInt8), Sample.doubled.disk.isProper = true ∧
      Scanner.scan {} Sample.capitalising.run.settings.classesDir Sample.doubled =
        .ok artifacts searched ∧ artifacts.paths = [one, two] ∧ one ≠ two ∧
      Sample.doubled.LeadsToFile one place data ∧ Sample.doubled.LeadsToFile two place data ∧
      Sample.capitalising.run.transformer.Follows
        (fun file => .ok (.bytes (file.data.map Transformer.upperByte))) ∧
      Sample.capitalising.call Sample.doubled = .ok (report, next) after ∧
      report.enhanced = [one] ∧ bytes ≠ data.bytes ∧
      after.calls.reverse.map (fun call => (call.path, call.data)) = [(one, data.bytes), (two, bytes)] := by
  have proper : Sample.doubled.disk.isProper = true := by decide +kernel
  have scans : (Scanner.scan {} Sample.capitalising.run.settings.classesDir).endsWith
      (fun artifacts => artifacts.paths = [Sample.doubledPaths.1, Sample.doubledPaths.2])
      Sample.doubled = true := by
    decide +kernel
  have ends : (Sample.calling Sample.capitalising).endsWith (fun ending =>
      ending.1.enhanced = [Sample.doubledPaths.1] &&
        ending.2.reverse.map (fun call => (call.path, call.data)) =
          [(Sample.doubledPaths.1, [0x61]), (Sample.doubledPaths.2, [0x41])])
      Sample.doubled = true := by
    decide +kernel
  obtain ⟨artifacts, searched, scan, found⟩ := ok_of_endsWith scans
  obtain ⟨⟨report, calls⟩, after, done, checked⟩ := ok_of_endsWith ends
  simp only [Bool.and_eq_true, decide_eq_true_eq] at found checked
  obtain ⟨next, called, same⟩ := Sample.calling_ok done
  refine ⟨_, _, ["c", "A.class"], ⟨[0x61], 0o644, false⟩, artifacts, report, next, searched, after,
    [0x41], proper, scan, found, by decide, rfl, rfl, Sample.capitals_follows, called, checked.1,
    by decide, ?_⟩
  rw [same]
  exact checked.2

end Runner

end Enhance
