import Enhance.Proofs.Run.Account

/-!
# What a run does to the files

A run whose transformer leaves the files alone changes the class files that it reports as enhanced and
those that it reports as not written, and it changes no other entry of the tree, but for temporary
files that the system does not let be removed.  Each class file stands at a place of its own, so that
writing one of them does not change what is read from another one (`Run.Effect.step`).
-/

namespace Enhance

open Program Replacement

/-- A temporary file that was left behind since a start, at a place that was free then. -/
structure World.Strayed (start world : World) (row : List String) : Prop where
  noted : ∃ temporary new, world.stranded = new ++ start.stranded ∧ temporary ∈ new ∧
    Temporary.isMarked temporary.name = true ∧
    Disk.LeadsTo world.disk world.cwd temporary row
  absent : start.disk.at? row = none
  file : ∃ data, world.disk.at? row = some (.file data)

/-- Whether a class file was written, or could not be written. -/
def Verdict.IsAboutWriting : Verdict → Prop
  | .unchanged => False
  | .enhanced => True
  | .failed diagnostic => diagnostic.stage = .persistence

namespace Run

/-- What has become of the files since a start when there are verdicts on class files. -/
structure Effect (strategy : WriteStrategy) (rule : ClassFile → Except Failure Answer)
    (rowOf : Path → List String) (start : World) (fates : Fates) (world : World) : Prop where
  cwd : world.cwd = start.cwd
  ways : Disk.SameWays start.disk world.disk
  stranded : start.stranded <:+ world.stranded
  fits : ∀ fate ∈ fates, fate.2.IsAboutWriting → Disk.Fits fate.1
  elsewhere : ∀ row, (∀ fate ∈ fates, fate.2.IsAboutWriting → rowOf fate.1 ≠ row) →
    world.disk.bareAt? row = start.disk.bareAt? row ∨ start.Strayed world row
  rewritten : ∀ path, (path, .enhanced) ∈ fates → ∃ bytes mode,
    world.disk.at? (rowOf path) = some (.file ⟨bytes, mode, true⟩) ∧
    ∀ data, start.disk.at? (rowOf path) = some (.file data) →
      rule ⟨data.bytes, path.name⟩ = .ok (.bytes bytes) ∧ bytes ≠ data.bytes
  kept : strategy = .atomic → ∀ path diagnostic, (path, .failed diagnostic) ∈ fates →
    diagnostic.stage = .persistence →
      world.disk.bareAt? (rowOf path) = start.disk.bareAt? (rowOf path)

namespace Effect

variable {strategy : WriteStrategy} {rule : ClassFile → Except Failure Answer}
  {rowOf : Path → List String} {start world after : World} {fates : Fates} {path : Path}
  {paths : List Path} {bytes : List UInt8} {problem : Option Diagnostic}

theorem nil (world : World) : Effect strategy rule rowOf world [] world :=
  ⟨rfl, .refl _, List.suffix_rfl, by simp, fun _ _ => .inl rfl, by simp, by simp⟩

/-- What leaves the files alone has no effect. -/
theorem of_same (effect : Effect strategy rule rowOf start fates world)
    (same : world.SameFiles after) (stranded : after.stranded = world.stranded) :
    Effect strategy rule rowOf start fates after := by
  obtain ⟨disk, cwd⟩ := same
  have strayed : ∀ row, start.Strayed world row → start.Strayed after row := by
    rintro row ⟨noted, absent, file⟩
    refine ⟨?_, absent, ?_⟩
    · rw [stranded, disk, cwd]
      exact noted
    · rw [disk]
      exact file
  refine ⟨cwd.trans effect.cwd, ?_, ?_, effect.fits, ?_, ?_, ?_⟩
  · rw [disk]
    exact effect.ways
  · rw [stranded]
    exact effect.stranded
  · intro row apart
    rw [disk]
    exact (effect.elsewhere row apart).imp id (strayed row)
  · rw [disk]
    exact effect.rewritten
  · rw [disk]
    exact effect.kept

/-- A verdict on a class file that is not written. -/
theorem note (effect : Effect strategy rule rowOf start fates world) {verdict : Verdict}
    (unwritten : ¬ verdict.IsAboutWriting) :
    Effect strategy rule rowOf start (fates ++ [(path, verdict)]) world := by
  have old : ∀ fate ∈ fates ++ [(path, verdict)], fate.2.IsAboutWriting → fate ∈ fates := by
    intro fate member isWritten
    rcases List.mem_append.1 member with member | member
    · exact member
    · obtain rfl := List.mem_singleton.1 member
      exact absurd isWritten unwritten
  refine ⟨effect.cwd, effect.ways, effect.stranded, ?_, ?_, ?_, ?_⟩
  · intro fate member isWritten
    exact effect.fits fate (old fate member isWritten) isWritten
  · intro row apart
    exact effect.elsewhere row fun fate member => apart fate (List.mem_append_left _ member)
  · intro path member
    exact effect.rewritten path (old _ member trivial)
  · intro atomic path diagnostic member stage
    exact effect.kept atomic path diagnostic (old _ member stage) stage

/-- Where class files were found, and on which of them there is no verdict yet. -/
structure Awaits (start : World) (rowOf : Path → List String) (paths : List Path) (fates : Fates)
    (path : Path) : Prop where
  placed : Scanner.Placed start.disk start.cwd paths rowOf
  known : ∀ fate ∈ fates, fate.1 ∈ paths
  member : path ∈ paths
  new : ∀ fate ∈ fates, fate.1 ≠ path

namespace Awaits

theorem rowOf_ne (awaits : Awaits start rowOf paths fates path) :
    ∀ fate ∈ fates, rowOf fate.1 ≠ rowOf path := by
  intro fate member same
  exact awaits.new fate member
    (awaits.placed.eq_of_rowOf fate.1 (awaits.known fate member) path awaits.member same)

/-- What is at the place of the class file, at first and still. -/
theorem there (awaits : Awaits start rowOf paths fates path)
    (effect : Effect strategy rule rowOf start fates world) :
    ∃ node, node.isDir = false ∧ start.disk.at? (rowOf path) = some node ∧
      world.disk.at? (rowOf path) = some node := by
  obtain ⟨node, there, plain⟩ := awaits.placed.there path awaits.member
  have same : world.disk.bareAt? (rowOf path) = start.disk.bareAt? (rowOf path) := by
    refine (effect.elsewhere _ fun fate member _ => awaits.rowOf_ne fate member).resolve_right ?_
    intro strayed
    rw [strayed.absent] at there
    contradiction
  exact ⟨node, plain, there, Listing.at?_of_bareAt?_eq same plain there⟩

end Awaits

/-- Writing a class file leaves what is at another place as it is. -/
theorem bareAt?_of_written {row other : List String} {node : Node}
    (written : Written strategy row bytes world after problem) (ne : other ≠ row)
    (there : world.disk.at? other = some node) :
    after.disk.bareAt? other = world.disk.bareAt? other := by
  apply (written.elsewhere other ne).resolve_right
  intro stray
  rw [stray.absent] at there
  contradiction

/-- Writing a class file leaves a temporary file alone that was left behind before. -/
theorem strayed_of_written {row other : List String} (strayed : start.Strayed world other)
    (written : Written strategy row bytes world after problem)
    (deadEnd : Disk.IsDeadEnd world.disk row) (ne : other ≠ row) :
    start.Strayed after other := by
  obtain ⟨⟨temporary, new, noted, member, marked, leads⟩, absent, data, file⟩ := strayed
  have leads' : Disk.LeadsTo after.disk after.cwd temporary other := by
    rw [written.cwd]
    exact leads.of_sameWays (written.sameWays deadEnd)
  have same := bareAt?_of_written written ne file
  refine ⟨?_, absent, data, Listing.at?_of_bareAt?_eq same rfl file⟩
  rcases written.stranded with same | ⟨place, stray⟩
  · exact ⟨temporary, new, same.trans noted, member, marked, leads'⟩
  · obtain ⟨last, latest, -, -⟩ := stray.noted
    refine ⟨temporary, last :: new, ?_, List.mem_cons_of_mem _ member, marked, leads'⟩
    rw [latest, noted]
    rfl

/-- A temporary file that is left behind when a class file is written is at a place that was free
before, unless a class file was there. -/
theorem strayed_of_stray {row : List String}
    (effect : Effect strategy rule rowOf start fates world)
    (apart : ∀ fate ∈ fates, fate.2.IsAboutWriting → rowOf fate.1 ≠ row)
    (stray : Stray world after row) : start.Strayed after row := by
  obtain ⟨⟨temporary, noted, marked, leaf⟩, absent, file⟩ := stray
  obtain ⟨new, before⟩ := effect.stranded
  refine ⟨⟨temporary, temporary :: new, ?_, List.mem_cons_self, marked, leaf.leads⟩, ?_, file⟩
  · rw [noted, ← before]
    rfl
  · rcases effect.elsewhere row apart with same | strayed
    · rw [← Listing.bareAt?_eq_none_iff, ← same, Listing.bareAt?_eq_none_iff]
      exact absent
    · obtain ⟨data, there⟩ := strayed.file
      rw [absent] at there
      contradiction

/-- A place that nothing was written to is as at first, or a temporary file was left there. -/
theorem elsewhere_of_written {here row : List String}
    (effect : Effect strategy rule rowOf start fates world)
    (deadEnd : Disk.IsDeadEnd world.disk here)
    (written : Written strategy here bytes world after problem) (ne : row ≠ here)
    (apart : ∀ fate ∈ fates, fate.2.IsAboutWriting → rowOf fate.1 ≠ row) :
    after.disk.bareAt? row = start.disk.bareAt? row ∨ start.Strayed after row := by
  -- The temporary file may have been left now, or when another class file was written.
  rcases written.elsewhere row ne with same | stray
  · rcases effect.elsewhere row apart with same' | strayed
    · exact .inl (same.trans same')
    · exact .inr (strayed_of_written strayed written deadEnd ne)
  · exact .inr (effect.strayed_of_stray apart stray)

/-- Writing a class file after others that stand at other places. -/
theorem write {verdict : Verdict} (effect : Effect strategy rule rowOf start fates world)
    (awaits : Awaits start rowOf paths fates path) (fits : Disk.Fits path)
    (deadEnd : Disk.IsDeadEnd world.disk (rowOf path))
    (written : Written strategy (rowOf path) bytes world after problem)
    (isAbout : verdict.IsAboutWriting) (done : verdict = .enhanced → problem = none)
    (failed : ∀ diagnostic, verdict = .failed diagnostic → problem ≠ none)
    (answers : ∀ data, start.disk.at? (rowOf path) = some (.file data) →
      rule ⟨data.bytes, path.name⟩ = .ok (.bytes bytes) ∧ bytes ≠ data.bytes) :
    Effect strategy rule rowOf start (fates ++ [(path, verdict)]) after := by
  have rowOf_ne := awaits.rowOf_ne
  refine ⟨written.cwd.trans effect.cwd, effect.ways.trans (written.sameWays deadEnd), ?_, ?_, ?_, ?_,
    ?_⟩
  · rcases written.stranded with same | ⟨place, stray⟩
    · rw [same]
      exact effect.stranded
    · obtain ⟨last, latest, -, -⟩ := stray.noted
      rw [latest]
      exact effect.stranded.trans (List.suffix_cons _ _)
  · intro fate member isWritten
    rcases List.mem_append.1 member with member | member
    · exact effect.fits fate member isWritten
    · obtain rfl := List.mem_singleton.1 member
      exact fits
  · intro row apart
    have ne : row ≠ rowOf path :=
      (apart (path, verdict) (List.mem_append_right _ List.mem_cons_self) isAbout).symm
    have before : ∀ fate ∈ fates, fate.2.IsAboutWriting → rowOf fate.1 ≠ row :=
      fun fate member => apart fate (List.mem_append_left _ member)
    exact effect.elsewhere_of_written deadEnd written ne before
  · intro other member
    rcases List.mem_append.1 member with member | member
    · obtain ⟨bytes', mode, file, answers'⟩ := effect.rewritten other member
      have same := bareAt?_of_written written (rowOf_ne _ member) file
      exact ⟨bytes', mode, Listing.at?_of_bareAt?_eq same rfl file, answers'⟩
    · cases List.mem_singleton.1 member
      obtain ⟨mode, file⟩ := written.replaced (done rfl)
      exact ⟨bytes, mode, file, answers⟩
  · intro atomic other diagnostic member stage
    rcases List.mem_append.1 member with member | member
    · have same := effect.kept atomic other diagnostic member stage
      obtain ⟨node, there, plain⟩ := awaits.placed.there other (awaits.known _ member)
      have there' := Listing.at?_of_bareAt?_eq same plain there
      exact (bareAt?_of_written written (rowOf_ne _ member) there').trans same
    · cases List.mem_singleton.1 member
      obtain ⟨node, plain, there, there'⟩ := awaits.there effect
      apply (written.kept (failed diagnostic rfl) atomic).trans
      rw [Listing.bareAt?, Listing.bareAt?, there, there']

/-- A class file that was read stands at its place, and if it was a file at first it holds the same
bytes. -/
theorem Awaits.of_read (awaits : Awaits start rowOf paths fates path)
    (effect : Effect strategy rule rowOf start fates world) {given : List UInt8}
    (read : Classpath.readFile world.disk world.cwd path = .ok given) :
    Disk.Fits path ∧ world.Leaf path (rowOf path) ∧
      ∀ data, start.disk.at? (rowOf path) = some (.file data) → data.bytes = given := by
  obtain ⟨data, found, rfl⟩ := Classpath.stat_of_readFile read
  rw [effect.cwd] at found
  obtain ⟨fits, leaf, unique⟩ := awaits.placed.leaf_of_stat awaits.member effect.ways found
  refine ⟨fits, ?_, ?_⟩
  · rw [World.Leaf, effect.cwd]
    exact leaf
  · intro first there
    obtain ⟨node, plain, at', still⟩ := awaits.there effect
    rw [there] at at'
    cases at'
    rw [unique first still]

variable {run : Run} {invocation : Invocation} {middle : World} {verdict : Verdict}

/-- Writing the new bytes of a class file. -/
theorem write_transformed (follows : invocation.transformer.Follows rule)
    (effect : Effect strategy rule rowOf start fates world)
    (awaits : Awaits start rowOf paths fates path)
    (invoked : invocation.Invoked path world (.transformed bytes) middle)
    (writing : strategy.write path bytes middle = .ok problem after)
    (isAbout : verdict.IsAboutWriting) (done : verdict = .enhanced → problem = none)
    (failed : ∀ diagnostic, verdict = .failed diagnostic → problem ≠ none) :
    Effect strategy rule rowOf start (fates ++ [(path, verdict)]) after := by
  obtain ⟨given, read, answers, ne⟩ := invoked.transformed follows rfl
  have same := invoked.sameFiles follows
  have unread := effect.of_same same invoked.calls_eq.1
  rw [← same.disk, ← same.cwd] at read
  obtain ⟨fits, leaf, first⟩ := awaits.of_read unread read
  obtain ⟨node, -, -, there⟩ := awaits.there unread
  have written := WriteStrategy.write_ok leaf there writing
  apply unread.write awaits fits leaf.deadEnd written isAbout done failed
  intro data file
  rw [first data file]
  exact ⟨answers, ne⟩

theorem of_quiet (effect : Effect strategy rule rowOf start fates world)
    (quiet : world.Quiet after) : Effect strategy rule rowOf start fates after :=
  effect.of_same ⟨quiet.disk, quiet.cwd⟩ quiet.stranded

/-- Processing a class file keeps what is known about the effect of a run. -/
theorem step (follows : invocation.transformer.Follows rule)
    (effect : Effect run.settings.writeStrategy rule rowOf start fates world)
    (awaits : Awaits start rowOf paths fates path)
    (handled : Handled run invocation path world verdict after) :
    Effect run.settings.writeStrategy rule rowOf start (fates ++ [(path, verdict)]) after := by
  cases handled with
  | unchanged invoked quiet =>
      have unread := effect.of_same (invoked.sameFiles follows) invoked.calls_eq.1
      exact (unread.of_quiet quiet).note id
  | untransformed invoked quiet =>
      have unread := effect.of_same (invoked.sameFiles follows) invoked.calls_eq.1
      apply (unread.of_quiet quiet).note
      intro stage
      contradiction
  | unwritten invoked write quiet =>
      have about := WriteStrategy.write_isAbout write
      refine (effect.write_transformed follows awaits invoked write ?_ ?_ ?_).of_quiet quiet
      · exact (about _ rfl).2
      · intro enhanced
        contradiction
      · simp
  | enhanced invoked write quiet =>
      refine (effect.write_transformed follows awaits invoked write ?_ ?_ ?_).of_quiet quiet
      · trivial
      · intro _
        rfl
      · intro diagnostic failed
        contradiction

theorem awaits_of_prefix {rest : Fates} (placed : Scanner.Placed start.disk start.cwd paths rowOf)
    (inFront : Fates.paths (fates ++ (path, verdict) :: rest) <+: paths) :
    Awaits start rowOf paths fates path := by
  have nodup := placed.nodup.sublist inFront.sublist
  simp only [Fates.paths, List.map_append, List.map_cons] at inFront nodup
  have known : ∀ other ∈ fates.map (·.1), other ∈ paths :=
    fun other member => inFront.subset (List.mem_append_left _ member)
  refine ⟨placed, fun fate member => known _ (List.mem_map_of_mem member), ?_, ?_⟩
  · exact inFront.subset (List.mem_append_right _ List.mem_cons_self)
  · rintro fate member rfl
    exact List.disjoint_of_nodup_append nodup (List.mem_map_of_mem member) List.mem_cons_self

/-- Processing class files one after the other keeps what is known about the effect of a run. -/
theorem processed {rest : Fates} (follows : invocation.transformer.Follows rule)
    (placed : Scanner.Placed start.disk start.cwd paths rowOf)
    (inFront : Fates.paths (fates ++ rest) <+: paths)
    (effect : Effect run.settings.writeStrategy rule rowOf start fates world)
    (processed : Processed run invocation world rest after) :
    Effect run.settings.writeStrategy rule rowOf start (fates ++ rest) after := by
  -- The verdicts that are known are those of the class files processed before.
  induction processed generalizing fates with
  | nil world =>
      rw [List.append_nil]
      exact effect
  | @cons path verdict rest world middle after handled _ ih =>
      have awaits := awaits_of_prefix placed inFront
      rw [List.append_cons] at inFront ⊢
      exact ih inFront (effect.step follows awaits handled)

/-- A class file that was written, or could not be written, stood at its place at first. -/
theorem lookup (effect : Effect strategy rule rowOf start fates world)
    (placed : Scanner.Placed start.disk start.cwd paths rowOf) (inFront : fates.paths <+: paths)
    {fate : Path × Verdict} (member : fate ∈ fates) (isAbout : fate.2.IsAboutWriting) :
    ∃ node, Disk.lookup start.disk start.cwd false fate.1 = .found (rowOf fate.1) node ∧
      node.isDir = false := by
  have isPath := inFront.subset (List.mem_map_of_mem member)
  obtain ⟨node, there, plain⟩ := placed.there _ isPath
  have leads := placed.leads _ isPath (effect.fits fate member isAbout)
  exact ⟨node, leads.lookup there, plain⟩

end Effect

end Run

/-! ## What a report says about the files -/

namespace Report

/-- Whether a report says of a class file that it was written, or that it could not be written. -/
def IsAboutWriting (report : Report) (path : Path) : Prop :=
  path ∈ report.enhanced ∨
    ∃ diagnostic ∈ report.diagnostics, diagnostic.stage = .persistence ∧ diagnostic.path = some path

/-- A report tells what a run did to the files.  A row of names stands for an entry of the tree, which
is the same in two trees if it is of the same kind and has the same bytes, permissions and target, and
was not written in between (`Listing.bareAt?`). -/
structure TellsEffect (report : Report) (strategy : WriteStrategy)
    (rule : ClassFile → Except Failure Answer) (before after : World) : Prop where
  /-- What was written, or could not be written, was a file or a link. -/
  plain : ∀ path, report.IsAboutWriting path → ∃ row node,
    Disk.lookup before.disk before.cwd false path = .found row node ∧ node.isDir = false
  /-- Every other entry is as before, but for temporary files that were left behind. -/
  untouched : ∀ row,
    (∀ path node, report.IsAboutWriting path →
      Disk.lookup before.disk before.cwd false path ≠ .found row node) →
    after.disk.bareAt? row = before.disk.bareAt? row ∨ before.Strayed after row
  /-- A file that was enhanced holds the new bytes that the rule gives for those it held before. -/
  rewritten : ∀ path ∈ report.enhanced, ∀ row data,
    Disk.lookup before.disk before.cwd false path = .found row (.file data) → ∃ bytes mode,
      Disk.lookup after.disk after.cwd false path = .found row (.file ⟨bytes, mode, true⟩) ∧
      rule ⟨data.bytes, path.name⟩ = .ok (.bytes bytes) ∧ bytes ≠ data.bytes
  /-- What could not be written atomically is as before. -/
  kept : strategy = .atomic → ∀ diagnostic ∈ report.diagnostics, diagnostic.stage = .persistence →
    ∀ path row node, diagnostic.path = some path →
      Disk.lookup before.disk before.cwd false path = .found row node →
        after.disk.bareAt? row = before.disk.bareAt? row

end Report

namespace Run

variable {run : Run} {ending : Ending} {report : Report}
  {strategy : WriteStrategy} {rule : ClassFile → Except Failure Answer}
  {rowOf : Path → List String} {start world after : World} {fates : Fates} {paths : List Path}
  {problems : List Diagnostic}

/-- A report says of the class files that were written, or could not be written, that they were. -/
theorem isAboutWriting_iff (located : fates.Located)
    (stages : ∀ diagnostic ∈ problems, diagnostic.stage = .classpath)
    (enhanced : report.enhanced = fates.enhanced)
    (diagnostics : report.diagnostics = problems ++ fates.diagnostics) {path : Path} :
    report.IsAboutWriting path ↔ ∃ fate ∈ fates, fate.2.IsAboutWriting ∧ fate.1 = path := by
  rw [Report.IsAboutWriting, enhanced, Fates.mem_enhanced, diagnostics]
  constructor
  · rintro (member | ⟨diagnostic, member, stage, isPath⟩)
    · exact ⟨_, member, trivial, rfl⟩
    · rcases List.mem_append.1 member with problem | member
      · rw [stages diagnostic problem] at stage
        contradiction
      · obtain ⟨other, member⟩ := Fates.mem_diagnostics.1 member
        rw [(located _ member diagnostic rfl).1] at isPath
        exact ⟨_, member, stage, Option.some.inj isPath⟩
  · rintro ⟨⟨other, verdict⟩, member, isAbout, rfl⟩
    cases verdict with
    | unchanged => exact isAbout.elim
    | enhanced => exact .inl member
    | failed diagnostic =>
        have isFailure := Fates.mem_diagnostics.2 ⟨other, member⟩
        exact .inr ⟨diagnostic, List.mem_append_right _ isFailure, isAbout,
          (located _ member diagnostic rfl).1⟩

/-- What is known about the effect of a run when it ends is what its report tells. -/
theorem Effect.tells (effect : Effect strategy rule rowOf start fates world)
    (placed : Scanner.Placed start.disk start.cwd paths rowOf) (inFront : fates.paths <+: paths)
    (located : fates.Located) (stages : ∀ diagnostic ∈ problems, diagnostic.stage = .classpath)
    (enhanced : report.enhanced = fates.enhanced)
    (diagnostics : report.diagnostics = problems ++ fates.diagnostics) :
    report.TellsEffect strategy rule start world := by
  have isAbout {path : Path} := @isAboutWriting_iff _ _ _ located stages enhanced diagnostics path
  refine ⟨?_, ?_, ?_, ?_⟩
  · intro path written
    obtain ⟨fate, member, isWritten, rfl⟩ := isAbout.1 written
    obtain ⟨node, found, plain⟩ := effect.lookup placed inFront member isWritten
    exact ⟨_, node, found, plain⟩
  · intro row apart
    apply effect.elsewhere
    rintro fate member isWritten rfl
    obtain ⟨node, found, -⟩ := effect.lookup placed inFront member isWritten
    exact apart fate.1 node (isAbout.2 ⟨fate, member, isWritten, rfl⟩) found
  · intro path member row data found
    rw [enhanced, Fates.mem_enhanced] at member
    obtain ⟨node, found', -⟩ := effect.lookup placed inFront member trivial
    rw [found] at found'
    cases found'
    obtain ⟨bytes, mode, file, answers⟩ := effect.rewritten path member
    obtain ⟨new, ne⟩ := answers data (Disk.at?_of_lookup found)
    have isPath := inFront.subset (List.mem_map_of_mem member)
    have leads := (placed.leads path isPath (effect.fits _ member trivial)).of_sameWays effect.ways
    rw [← effect.cwd] at leads
    exact ⟨bytes, mode, leads.lookup file, new, ne⟩
  · intro atomic diagnostic member stage path row node isPath found
    rw [diagnostics] at member
    rcases List.mem_append.1 member with problem | member
    · rw [stages diagnostic problem] at stage
      contradiction
    · obtain ⟨other, member⟩ := Fates.mem_diagnostics.1 member
      rw [(located _ member diagnostic rfl).1] at isPath
      obtain rfl := Option.some.inj isPath
      obtain ⟨node', found', -⟩ := effect.lookup placed inFront member stage
      rw [found] at found'
      cases found'
      exact effect.kept atomic _ diagnostic member stage

theorem Scans.placed (scans : run.Scans world paths after) (proper : world.disk.isProper = true) :
    ∃ rowOf, Scanner.Placed world.disk world.cwd paths rowOf := by
  obtain ⟨artifacts, scan, rfl⟩ := scans
  exact Scanner.scan_placed proper scan

/-- A run in which no class file was processed leaves the files alone. -/
theorem tells_of_quiet (quiet : world.Quiet after) (enhanced : report.enhanced = [])
    (stages : ∀ diagnostic ∈ report.diagnostics, diagnostic.stage = .classpath) :
    report.TellsEffect strategy rule world after := by
  have effect : Effect strategy rule (fun _ => []) world [] after := (Effect.nil world).of_quiet quiet
  have placed : Scanner.Placed world.disk world.cwd [] fun _ => [] :=
    ⟨.nil, by simp, by simp, by simp⟩
  refine effect.tells placed List.prefix_rfl ?_ stages enhanced ?_
  · intro fate member
    contradiction
  · exact (List.append_nil _).symm

/-- Whatever course a run takes, its report tells what it did to the files. -/
theorem Course.tells (proper : world.disk.isProper = true)
    (follows : run.transformer.Follows rule) (course : Course run world ending after) :
    ending.1.TellsEffect run.settings.writeStrategy rule world after := by
  cases course with
  | skipped way comprises shows quiet =>
      apply tells_of_quiet quiet
      · exact shows.enhanced.trans comprises.enhanced
      · rw [shows.diagnostics, comprises.diagnostics]
        simp [Fates.diagnostics]
  | unresolved quiet scan stage failFast comprises shows quietAfter =>
      apply tells_of_quiet ((quiet.trans scan.quiet).trans quietAfter)
      · exact shows.enhanced.trans comprises.enhanced
      · rw [shows.diagnostics, comprises.diagnostics]
        simp [Fates.diagnostics, stage]
  | @processed paths classpath problems fates abort last report searching searched begun ended after
      quiet scan stages tolerated quietBuild processed cut comprises shows quietAfter =>
      obtain ⟨rowOf, placed⟩ := scan.placed (quiet.disk ▸ proper)
      rw [quiet.disk, quiet.cwd] at placed
      have nothing : Effect run.settings.writeStrategy rule rowOf world [] begun :=
        (Effect.nil world).of_quiet ((quiet.trans scan.quiet).trans quietBuild)
      have effect : Effect run.settings.writeStrategy rule rowOf world ([] ++ fates) ended :=
        nothing.processed follows placed cut.prefix_paths processed
      exact (effect.of_quiet quietAfter).tells placed cut.prefix_paths processed.located stages
        (shows.enhanced.trans comprises.enhanced) (shows.diagnostics.trans comprises.diagnostics)

end Run

namespace Runner

variable {runner next : Runner} {report : Report} {world after : World}

/-- A run whose transformer answers by a rule and leaves the files alone does what its report tells to
a tree of files: it writes what the rule gives to the class files that were enhanced, and leaves
everything else as it is, whichever faults strike. -/
theorem call_tells {rule : ClassFile → Except Failure Answer} (proper : world.disk.isProper = true)
    (follows : runner.run.transformer.Follows rule)
    (done : runner.call world = .ok (report, next) after) :
    report.TellsEffect runner.run.settings.writeStrategy rule world after := by
  obtain ⟨started, -⟩ := start_of_call done
  exact (Run.start_ok started).tells proper follows

/-- A run that capitalises letters writes one of two class files and leaves the other one alone. -/
theorem call_tells_capitals : ∃ (rule : ClassFile → Except Failure Answer) (report : Report)
    (after : World), Sample.world.disk.isProper = true ∧
      (Transformer.capitals "Capitals").Follows rule ∧ report.enhanced.length = 1 ∧
      report.unchanged.length = 1 ∧ report.TellsEffect .atomic rule Sample.world after := by
  let runner : Runner :=
    { run := Sample.run (.capitals "Capitals") true
      progress := { startedAt := default, startTime := 0.0 } }
  have proper : Sample.world.disk.isProper = true := by decide +kernel
  have follows : (Transformer.capitals "Capitals").Follows
      fun file => .ok (.bytes (file.data.map Transformer.upperByte)) :=
    fun _ _ _ _ => ⟨rfl, rfl, rfl⟩
  have ends : runner.call.endsWith
      (fun ending => ending.1.enhanced.length = 1 && ending.1.unchanged.length = 1) Sample.world =
        true := by
    decide +kernel
  obtain ⟨⟨report, next⟩, after, done, checked⟩ := ok_of_endsWith ends
  simp only [Bool.and_eq_true, decide_eq_true_eq] at checked
  exact ⟨_, report, after, proper, follows, checked.1, checked.2, call_tells proper follows done⟩

end Runner

end Enhance
