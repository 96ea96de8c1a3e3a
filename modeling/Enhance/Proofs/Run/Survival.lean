import Enhance.Proofs.Replacement.Moments
import Enhance.Proofs.Run.Approach

/-!
# Runs that are stopped half-way

A run with the atomic strategy whose transformer changes no files can be stopped at any moment between
two calls: every file of the tree holds then what it held at first, or the complete bytes that the
transformer returned for it in this run, and in the latter case it does so from then on.  What taking
up a single class file does to the disk is said by `Run.Taken`; the run is an induction on the class
files that are left.
-/

namespace Enhance

open Program Replacement

/-- A transformer changes no files and stays in the working directory, whatever else it does. -/
def Transformer.SparesFiles (transformer : Transformer) : Prop :=
  transformer.Has fun _ program => program.Keeps World.Still

namespace Invocation

variable {invocation : Invocation} {path : Path} {world after : World} {bytes : List UInt8}

/-- When a class file is taken up in a world, it is read and the transformer returns bytes for what was
read. -/
def Returns (invocation : Invocation) (path : Path) (world : World) (given bytes : List UInt8) :
    Prop :=
  ∃ read ended, readClass path { world with spansBegun := world.spansBegun + 1 } = .ok given read ∧
    invocation.call path given read = .ok (.bytes bytes) ended

/-- New bytes are those that the transformer returned. -/
theorem run_returns
    (done : invocation.run path { world with spansBegun := world.spansBegun + 1 } =
      .ok (.transformed bytes) after) :
    ∃ given, invocation.Returns path world given bytes ∧
      Classpath.readFile world.disk world.cwd path = .ok given := by
  obtain ⟨found, read, reading, done⟩ := bind_ok.1 done
  cases found with
  | error error =>
      obtain ⟨same, -⟩ := failed_ok done
      contradiction
  | ok given =>
      have reads := catchSystem_value.1 reading
      have quiet := (readClass_quiet path).of_ok reads
      have isRead := readClass_ok reads
      rw [quiet.disk, quiet.cwd] at isRead
      obtain ⟨result, ended, calling, done⟩ := bind_ok.1 done
      cases result with
      | error failure =>
          obtain ⟨same, -⟩ := failed_ok done
          contradiction
      | ok answer =>
          obtain ⟨same, -⟩ := outcome_ok done
          refine ⟨given, ⟨read, ended, reads, ?_⟩, isRead⟩
          obtain ⟨isBytes, -⟩ := judged_transformed.1 same
          cases isBytes
          obtain ⟨answer, called, same⟩ | ⟨_, _, _, same⟩ := catchOrdinary_ok.1 calling
          · cases same
            exact called
          · contradiction

end Invocation

/-! ## What a file holds at all moments -/

/-- On disks that come one after the other, a file holds what it held at first, or from some moment on
new bytes, for which there is a reason.  It always has the permissions it had. -/
inductive Disk.Survives (reason : List UInt8 → Prop) (row : List String) (data : FileData)
    (disks : List Listing) : Prop
  | kept (same : ∀ disk ∈ disks, disk.at? row = some (.file data))
  | replaced {bytes : List UInt8} {before later : List Listing} (split : disks = before ++ later)
      (because : reason bytes) (old : ∀ disk ∈ before, disk.at? row = some (.file data))
      (new : ∀ disk ∈ later, disk.at? row = some (.file ⟨bytes, data.mode, true⟩))

namespace Disk.Survives

variable {reason other : List UInt8 → Prop} {row : List String} {data : FileData}
  {front disks : List Listing}

theorem mono (survives : Survives reason row data disks)
    (weaker : ∀ bytes, reason bytes → other bytes) : Survives other row data disks := by
  cases survives with
  | kept same => exact .kept same
  | replaced split because old new => exact .replaced split (weaker _ because) old new

/-- A file that is kept for a while and then survives, survives. -/
theorem after_kept (same : ∀ disk ∈ front, disk.at? row = some (.file data))
    (survives : Survives reason row data disks) : Survives reason row data (front ++ disks) := by
  cases survives with
  | kept more => exact .kept (List.forall_mem_append.2 ⟨same, more⟩)
  | replaced split because old new =>
      refine .replaced ?_ because (List.forall_mem_append.2 ⟨same, old⟩) new
      rw [split, List.append_assoc]

/-- What holds on all disks that were passed through, and held before, holds on the last one. -/
theorem at?_of_trail {before after : World} {node : Node} (trail : before.Trail after disks)
    (there : before.disk.at? row = some node) (same : ∀ disk ∈ disks, disk.at? row = some node) :
    after.disk.at? row = some node := by
  rcases trail.disk_eq_or_mem with unchanged | member
  · rw [unchanged]
    exact there
  · exact same _ member

/-- A file that survives and then survives again, survives, if it is not replaced twice. -/
theorem trans {again : List UInt8 → List UInt8 → Prop} {before middle : World}
    (trail : before.Trail middle front) (there : before.disk.at? row = some (.file data))
    (one : Survives reason row data front)
    (two : ∀ next, middle.disk.at? row = some (.file next) →
      Survives (again next.bytes) row next disks)
    (once : ∀ bytes given others, reason bytes → ¬ again given others) :
    Survives (fun bytes => reason bytes ∨ again data.bytes bytes) row data (front ++ disks) := by
  have afterKept (same : ∀ disk ∈ front, disk.at? row = some (.file data)) :
      Survives (fun bytes => reason bytes ∨ again data.bytes bytes) row data (front ++ disks) := by
    have still := at?_of_trail trail there same
    exact .after_kept same ((two data still).mono fun bytes => .inr)
  cases one with
  | kept same => exact afterKept same
  | @replaced bytes earlier later split because old new =>
      cases later with
      | nil =>
          rw [List.append_nil] at split
          subst split
          exact afterKept old
      | cons first rest =>
          have last : middle.disk ∈ first :: rest := by
            have none_left : (first :: rest) ≠ [] := List.cons_ne_nil _ _
            rw [trail.disk, split, List.getLastD_eq_getLast?, List.getLast?_append_of_ne_nil _ none_left,
              List.getLast?_eq_some_getLast none_left]
            exact List.getLast_mem none_left
          cases two _ (new _ last) with
          | kept same =>
              have whole : front ++ disks = earlier ++ (first :: rest ++ disks) := by
                rw [split, List.append_assoc]
              exact .replaced whole (.inl because) old (List.forall_mem_append.2 ⟨new, same⟩)
          | replaced _ because' _ _ => exact absurd because' (once _ _ _ because)

end Disk.Survives

/-- Between two worlds every way to a directory is open and every file of the tree survives, for
reasons that depend on its place and on what it holds. -/
def World.Preserves (reason : List String → List UInt8 → List UInt8 → Prop)
    (before after : World) : Prop :=
  ∃ disks, before.Trail after disks ∧ (∀ disk ∈ disks, Disk.SameWays before.disk disk) ∧
    ∀ row data, before.disk.at? row = some (.file data) →
      Disk.Survives (reason row data.bytes) row data disks

namespace World.Preserves

variable {reason other again : List String → List UInt8 → List UInt8 → Prop}
  {before middle after : World}

theorem of_still (still : before.Still after) : before.Preserves reason after :=
  ⟨[], still, by simp, fun _ _ _ => .kept (by simp)⟩

theorem of_spares (spares : before.Spares after) : before.Preserves reason after := by
  obtain ⟨disks, trail, differ⟩ := spares
  refine ⟨disks, trail, fun disk member => (differ disk member).sameWays, ?_⟩
  intro row data there
  exact .kept fun disk member => (differ disk member).at?_eq rfl there

theorem mono (preserves : before.Preserves reason after)
    (weaker : ∀ row given bytes, reason row given bytes → other row given bytes) :
    before.Preserves other after := by
  obtain ⟨disks, trail, ways, survive⟩ := preserves
  refine ⟨disks, trail, ways, ?_⟩
  intro row data there
  exact (survive row data there).mono (weaker row data.bytes)

theorem trans (one : before.Preserves reason middle) (two : middle.Preserves again after)
    (once : ∀ row given bytes given' bytes', reason row given bytes → ¬ again row given' bytes') :
    before.Preserves (fun row given bytes => reason row given bytes ∨ again row given bytes)
      after := by
  obtain ⟨front, trail, ways, survive⟩ := one
  obtain ⟨disks, trail', ways', survive'⟩ := two
  have here : Disk.SameWays before.disk middle.disk := by
    rcases trail.disk_eq_or_mem with same | member
    · rw [same]
      exact .refl _
    · exact ways _ member
  refine ⟨front ++ disks, trail.trans trail', ?_, ?_⟩
  · exact List.forall_mem_append.2 ⟨ways, fun disk member => here.trans (ways' disk member)⟩
  · intro row data there
    exact (survive row data there).trans trail there (survive' row)
      fun bytes given' bytes' => once row data.bytes bytes given' bytes'

theorem still_trans (still : before.Still middle) (preserves : middle.Preserves reason after) :
    before.Preserves reason after := by
  have one : before.Preserves (fun _ _ _ => False) middle := of_still still
  exact (one.trans preserves fun _ _ _ _ _ never => never.elim).mono
    fun _ _ _ found => found.resolve_left id

theorem trans_still (preserves : before.Preserves reason middle) (still : middle.Still after) :
    before.Preserves reason after := by
  have two : middle.Preserves (fun _ _ _ => False) after := of_still still
  exact (preserves.trans two fun _ _ _ _ _ _ => id).mono fun _ _ _ found => found.resolve_right id

end World.Preserves

/-! ## Taking up a single class file -/

namespace World.Attempts

variable {before middle after : World} {row : List String} {bytes : List UInt8}

theorem still_trans (still : before.Still middle) (attempts : World.Attempts row bytes middle after) :
    World.Attempts row bytes before after := by
  have same : middle.disk = before.disk := still.disk
  rcases attempts with spares | ⟨mode, copied, replaces⟩
  · exact .inl (.still_trans still spares)
  · rw [same] at copied
    exact .inr ⟨mode, copied, .still_trans still replaces⟩

theorem trans_still (attempts : World.Attempts row bytes before middle) (still : middle.Still after) :
    World.Attempts row bytes before after := by
  rcases attempts with spares | ⟨mode, copied, replaces⟩
  · exact .inl (spares.trans_still still)
  · exact .inr ⟨mode, copied, replaces.trans_still still⟩

end World.Attempts

theorem WriteStrategy.write_leaves {path : Path} {row : List String} {world : World} {node : Node}
    (leaf : world.Leaf path row) (there : world.disk.at? row = some node) (bytes : List UInt8) :
    World.Attempts row bytes world ((WriteStrategy.atomic.write path bytes).leaves world) := by
  have attempts := replaceAtomically_leaves leaf there bytes
  apply leaves_bind
  · intro problem middle done
    rw [leaves_of_ok done] at attempts
    apply attempts.trans_still
    cases problem with
    | none | some diagnostic => exact ⟨rfl, rfl, rfl⟩
  · intro failure middle failed
    rwa [leaves_of_error failed] at attempts

namespace Run

open Scanner (Placed)

variable {run : Run} {invocation : Invocation} {path : Path} {paths : List Path}
  {rowOf : Path → List String} {world after : World}

/-- What happened to the disk when a class file was taken up. -/
inductive Taken (invocation : Invocation) (path : Path) (row : List String)
    (before after : World) : Prop
  /-- The disk differed at most at places that were free. -/
  | spared (spares : before.Spares after)
  /-- The transformer returned bytes for what the file held, and there was an attempt to write them. -/
  | rewritten {given bytes : List UInt8} (fits : Disk.Fits path)
      (deadEnd : Disk.IsDeadEnd before.disk row)
      (returns : invocation.Returns path before given bytes)
      (original : ∀ data, before.disk.at? row = some (.file data) → data.bytes = given)
      (attempts : World.Attempts row bytes before after)

theorem Taken.trans_still {row : List String} {middle : World}
    (taken : Taken invocation path row world middle) (still : middle.Still after) :
    Taken invocation path row world after := by
  cases taken with
  | spared spares => exact .spared (spares.trans_still still)
  | rewritten fits deadEnd returns original attempts =>
      exact .rewritten fits deadEnd returns original (attempts.trans_still still)

/-- If the transformer returned bytes for a class file, writing them takes it up. -/
theorem write_taken {bytes : List UInt8} {middle : World}
    (placed : Placed world.disk world.cwd paths rowOf) (member : path ∈ paths)
    (running : invocation.run path { world with spansBegun := world.spansBegun + 1 } =
      .ok (.transformed bytes) after) (still : world.Still middle) :
    Taken invocation path (rowOf path) world
      ((WriteStrategy.atomic.write path bytes).leaves middle) := by
  obtain ⟨given, returns, read⟩ := Invocation.run_returns running
  obtain ⟨data, found, rfl⟩ := Classpath.stat_of_readFile read
  obtain ⟨fits, leaf, unique⟩ := placed.leaf_of_stat member (.refl _) found
  obtain ⟨node, there, -⟩ := placed.there path member
  have leaf' : middle.Leaf path (rowOf path) := by
    rw [World.Leaf, still.disk, still.cwd]
    exact leaf
  have there' : middle.disk.at? (rowOf path) = some node := by
    rw [still.disk]
    exact there
  refine .rewritten fits leaf.deadEnd returns ?_
    (.still_trans still (WriteStrategy.write_leaves leaf' there' bytes))
  intro other isFile
  rw [unique other isFile]

/-- However processing a class file ends, the disk differed at most at places that were free until the
class file held the bytes that the transformer returned for it. -/
theorem judge_leaves (spares : invocation.transformer.SparesFiles)
    (atomic : run.settings.writeStrategy = .atomic)
    (placed : Placed world.disk world.cwd paths rowOf) (member : path ∈ paths) :
    Taken invocation path (rowOf path) world ((run.judge invocation path).leaves world) := by
  have still : world.Still ((traced "weaver.enhance_class" [("weaver.class", .str path.toString)]
      (invocation.run path)).leaves world) :=
    still_recording.traced _ _ (Invocation.run_recording still_recording spares path) world
  apply leaves_bind
  · intro outcome middle tracing
    rw [leaves_of_ok tracing] at still
    cases outcome with
    | unchanged =>
        exact .spared (.of_still (still.trans (keeps_bind (log_still _) (fun _ => keeps_pure _) _)))
    | failed message cause => exact .spared (.of_still (still.trans (refuse_reporting still_reporting _ _ _)))
    | transformed bytes =>
        obtain ⟨ended, running, -⟩ := traced_ok.1 tracing
        have taken := write_taken placed member running still
        rw [← atomic] at taken
        apply leaves_bind
        · intro problem last writing
          rw [leaves_of_ok writing] at taken
          apply taken.trans_still
          cases problem with
          | none => exact keeps_bind (log_still _) (fun _ => keeps_pure _) _
          | some diagnostic => exact refuse_reporting still_reporting _ _ _
        · intro failure last failed
          rwa [leaves_of_error failed] at taken
  · intro failure middle failed
    rw [leaves_of_error failed] at still
    exact .spared (.of_still still)

/-! ## What a single class file does to the others -/

namespace Taken

variable {row other : List String} {before middle : World} {node : Node}

theorem sameWays (taken : Taken invocation path row before after) :
    Disk.SameWays before.disk after.disk := by
  cases taken with
  | spared spares => exact spares.sameWays
  | rewritten fits deadEnd returns original attempts =>
      rcases attempts with spares | ⟨mode, copied, replaces⟩
      · exact spares.sameWays
      · exact replaces.sets.sameWays deadEnd

/-- What stands elsewhere is still there. -/
theorem at?_of_ne (taken : Taken invocation path row before after) (ne : other ≠ row)
    (plain : node.isDir = false) (there : before.disk.at? other = some node) :
    after.disk.at? other = some node := by
  cases taken with
  | spared spares => exact spares.at?_eq plain there
  | rewritten fits deadEnd returns original attempts =>
      rcases attempts with spares | ⟨mode, copied, replaces⟩
      · exact spares.at?_eq plain there
      · exact Listing.at?_of_bareAt?_eq (replaces.sets.elsewhere other ne) plain there

theorem cwd (taken : Taken invocation path row before after) : after.cwd = before.cwd := by
  cases taken with
  | spared spares => exact spares.cwd
  | rewritten fits deadEnd returns original attempts =>
      rcases attempts with spares | ⟨mode, copied, ⟨last, spares, trail⟩, sets⟩
      · exact spares.cwd
      · exact trail.cwd.trans spares.cwd

/-- Until the class file holds what the transformer returned for it, every file is kept. -/
theorem preserves (taken : Taken invocation path row before after) :
    before.Preserves (fun place given bytes => place = row ∧ Disk.Fits path ∧
      invocation.Returns path before given bytes) after := by
  cases taken with
  | spared spares => exact .of_spares spares
  | rewritten fits deadEnd returns original attempts =>
      rcases attempts with spares | ⟨mode, copied, ⟨last, ⟨disks, trail, differ⟩, trail'⟩, sets⟩
      · exact .of_spares spares
      · refine ⟨disks ++ [after.disk], trail.trans trail', ?_, ?_⟩
        · intro disk member
          rcases List.mem_append.1 member with member | member
          · exact (differ disk member).sameWays
          · obtain rfl := List.mem_singleton.1 member
            exact sets.sameWays deadEnd
        · intro other data there
          have old : ∀ disk ∈ disks, disk.at? other = some (.file data) :=
            fun disk member => (differ disk member).at?_eq rfl there
          by_cases same : other = row
          · subst same
            rw [copied data there] at sets
            rw [← original data there] at returns
            exact .replaced rfl ⟨rfl, fits, returns⟩ old (by simpa using sets.here)
          · have kept := Listing.at?_of_bareAt?_eq (sets.elsewhere other same) rfl there
            exact .kept (List.forall_mem_append.2 ⟨old, by simpa using kept⟩)

/-- The other class files stand where they stood. -/
theorem placed (taken : Taken invocation path (rowOf path) before after)
    (placed : Placed before.disk before.cwd (path :: paths) rowOf) :
    Placed after.disk after.cwd paths rowOf := by
  obtain ⟨new, nodup⟩ := List.nodup_cons.1 placed.nodup
  have old : ∀ other ∈ paths, other ∈ path :: paths := fun other => List.mem_cons_of_mem _
  refine ⟨nodup, ?_, ?_, ?_⟩
  · intro one isOne two isTwo
    exact placed.eq_of_rowOf one (old one isOne) two (old two isTwo)
  · intro other member fits
    rw [taken.cwd]
    exact (placed.leads other (old other member) fits).of_sameWays taken.sameWays
  · intro other member
    obtain ⟨node, there, plain⟩ := placed.there other (old other member)
    refine ⟨node, taken.at?_of_ne ?_ plain there, plain⟩
    intro same
    obtain rfl := placed.eq_of_rowOf other (old other member) path List.mem_cons_self same
    exact new member

end Taken

/-! ## Taking up class files one after the other -/

variable {progress : Progress} {middle : World}

/-- Class files were taken up one after the other. -/
inductive Reaches (run : Run) (invocation : Invocation) : World → List Path → World → Prop
  | nil (world : World) : Reaches run invocation world [] world
  | cons {path : Path} {paths : List Path} {verdict : Verdict} {world middle last : World}
      (judged : run.judge invocation path world = .ok verdict middle)
      (goesOn : verdict.abort? run.policy = none)
      (rest : Reaches run invocation middle paths last) :
      Reaches run invocation world (path :: paths) last

/-- Of class files that are taken up one after the other, the transformer returns bytes for what is
given of one. -/
def Answers (run : Run) (invocation : Invocation) (world : World) (paths : List Path) (path : Path)
    (given bytes : List UInt8) : Prop :=
  ∃ front rest last, paths = front ++ path :: rest ∧ run.Reaches invocation world front last ∧
    invocation.Returns path last given bytes

theorem Answers.mem {given bytes : List UInt8}
    (answers : run.Answers invocation world paths path given bytes) : path ∈ paths := by
  obtain ⟨front, rest, last, rfl, -⟩ := answers
  simp

/-- Of class files that stand at places, the transformer returns bytes for the one at a place. -/
def AnswersAt (run : Run) (invocation : Invocation) (rowOf : Path → List String) (world : World)
    (paths : List Path) (row : List String) (given bytes : List UInt8) : Prop :=
  ∃ path, rowOf path = row ∧ Disk.Fits path ∧ run.Answers invocation world paths path given bytes

/-- Processing class files in turn, however it ends, leaves every file with what it held or with what
the transformer returned for it. -/
theorem processAll_leaves (spares : invocation.transformer.SparesFiles)
    (atomic : run.settings.writeStrategy = .atomic)
    (placed : Placed world.disk world.cwd paths rowOf) (progress : Progress) :
    world.Preserves (run.AnswersAt invocation rowOf world paths)
      ((run.processAll invocation progress paths).leaves world) := by
  -- The class files that are left stand where they stood, so that none is replaced twice.
  induction paths generalizing world progress with
  | nil => exact .of_still (.refl _)
  | cons path paths ih =>
      have first : ∀ row given bytes, (row = rowOf path ∧ Disk.Fits path ∧
          invocation.Returns path world given bytes) →
          run.AnswersAt invocation rowOf world (path :: paths) row given bytes := by
        rintro row given bytes ⟨rfl, fits, returns⟩
        exact ⟨path, rfl, fits, [], paths, world, rfl, .nil _, returns⟩
      have taken := judge_leaves spares atomic placed List.mem_cons_self
      rw [← leaves_map, ← process_eq run invocation progress path] at taken
      rw [processAll]
      apply leaves_bind
      · rintro ⟨next, abort⟩ middle processing
        rw [leaves_of_ok processing] at taken
        obtain ⟨verdict, judged, rfl, rfl⟩ := process_ok processing
        cases aborts : verdict.abort? run.policy with
        | some diagnostic => exact taken.preserves.mono first
        | none =>
            have later := ih (taken.placed placed) (progress.note path verdict)
            refine (taken.preserves.trans later ?_).mono ?_
            · rintro row given bytes given' bytes' ⟨rfl, -, -⟩ ⟨other, same, -, answers⟩
              obtain ⟨new, -⟩ := List.nodup_cons.1 placed.nodup
              obtain rfl := placed.eq_of_rowOf other (List.mem_cons_of_mem _ answers.mem) path
                List.mem_cons_self same
              exact new answers.mem
            · rintro row given bytes (here | ⟨other, same, fits, answers⟩)
              · exact first row given bytes here
              · obtain ⟨front, rest, last, rfl, reaches, returns⟩ := answers
                exact ⟨other, same, fits, path :: front, rest, last, rfl,
                  .cons judged aborts reaches, returns⟩
      · intro failure middle failed
        rw [leaves_of_error failed] at taken
        exact taken.preserves.mono first

/-! ## A whole run -/

/-- Once a run has begun, the transformer returns bytes for what it is given of the file at a place. -/
def TransformsFrom (run : Run) (progress : Progress) (world : World) (row : List String)
    (given bytes : List UInt8) : Prop :=
  ∃ next classpath begun path, run.approach progress world = .ok (.ready next classpath) begun ∧
    Disk.LeadsTo world.disk world.cwd path row ∧
    run.Answers (run.invocation classpath) begun next.scanned path given bytes

/-- In a run that starts in a world, the transformer returns bytes for what it is given of the file at
a place. -/
def Transforms (run : Run) (world : World) (row : List String) (given bytes : List UInt8) : Prop :=
  ∃ progress read, begin world = .ok progress read ∧
    run.TransformsFrom progress { read with spansBegun := read.spansBegun + 1 } row given bytes

theorem take_leaves {classpath : Classpath} (spares : run.transformer.SparesFiles)
    (atomic : run.settings.writeStrategy = .atomic)
    (placed : Placed world.disk world.cwd progress.scanned rowOf) :
    world.Preserves (run.AnswersAt (run.invocation classpath) rowOf world progress.scanned)
      ((run.take (.ready progress classpath)).leaves world) := by
  have processes : world.Preserves _
      ((run.processAll (run.invocation classpath) progress progress.scanned).leaves world) :=
    processAll_leaves spares atomic placed progress
  apply leaves_bind
  · rintro ⟨last, abort⟩ middle processing
    rw [leaves_of_ok processing] at processes
    apply processes.trans_still
    cases abort with
    | none => exact finish_timed still_recording.toTimed _ _ _ _ _
    | some diagnostic => exact stop_timed still_recording.toTimed _ _ _ _
  · intro failure middle failed
    rwa [leaves_of_error failed] at processes

theorem execute_leaves (proper : world.disk.isProper = true) (spares : run.transformer.SparesFiles)
    (atomic : run.settings.writeStrategy = .atomic) (progress : Progress) :
    world.Preserves (run.TransformsFrom progress world) ((run.execute progress).leaves world) := by
  have approaches := approach_reporting still_reporting still_recording.toTimed run progress world
  rw [execute_eq]
  apply leaves_bind
  · intro approach begun approaching
    rw [leaves_of_ok approaching] at approaches
    cases approach with
    | ended ending => exact .of_still approaches
    | ready next classpath =>
        obtain ⟨searching, searched, sameFiles, artifacts, scan, same⟩ :=
          (approach_ok approaching).scans
        obtain ⟨rowOf, placed⟩ := Scanner.scan_placed (sameFiles.disk ▸ proper) scan
        have disk : begun.disk = world.disk := approaches.disk
        rw [same, ← sameFiles.disk, ← sameFiles.cwd, ← disk, ← approaches.cwd] at placed
        apply World.Preserves.still_trans approaches
        apply (take_leaves spares atomic placed).mono
        rintro row given bytes ⟨path, rfl, fits, answers⟩
        have leads := placed.leads path answers.mem fits
        rw [disk, approaches.cwd] at leads
        exact ⟨next, classpath, begun, path, approaching, leads, answers⟩
  · intro failure begun failed
    rw [leaves_of_error failed] at approaches
    exact .of_still approaches

theorem complete_leaves (proper : world.disk.isProper = true) (spares : run.transformer.SparesFiles)
    (atomic : run.settings.writeStrategy = .atomic) (progress : Progress) :
    world.Preserves
      (run.TransformsFrom progress { world with spansBegun := world.spansBegun + 1 })
      ((run.complete progress).leaves world) := by
  let opened : World := { world with spansBegun := world.spansBegun + 1 }
  let attributes : List (String × Json) :=
    [("weaver.classes_dir", .str run.settings.classesDir.toString)]
  have executes : world.Preserves (run.TransformsFrom progress opened)
      ((Program.traced "weaver.enhance" attributes (run.execute progress)).leaves world) := by
    obtain ⟨spans, same⟩ := leaves_traced "weaver.enhance" attributes (run.execute progress) world
    have opening : world.Still opened := ⟨rfl, rfl, rfl⟩
    have closing : ((run.execute progress).leaves opened).Still
        { (run.execute progress).leaves opened with spans } := ⟨rfl, rfl, rfl⟩
    have openedProper : opened.disk.isProper = true := proper
    have executed := execute_leaves openedProper spares atomic progress
    rw [same]
    exact (World.Preserves.still_trans opening executed).trans_still closing
  apply leaves_bind
  · rintro ⟨report, last⟩ ended tracing
    rw [leaves_of_ok tracing] at executes
    exact executes.trans_still (keeps_bind (log_still _) (fun _ => keeps_pure _) _)
  · intro failure ended failed
    rwa [leaves_of_error failed] at executes

theorem start_leaves (proper : world.disk.isProper = true) (spares : run.transformer.SparesFiles)
    (atomic : run.settings.writeStrategy = .atomic) :
    world.Preserves (run.Transforms world) (run.start.leaves world) := by
  have begins := begin_timed still_recording.toTimed world
  apply leaves_bind
  · intro progress read beginning
    rw [leaves_of_ok beginning] at begins
    have disk : read.disk = world.disk := begins.disk
    have completes := complete_leaves (disk ▸ proper) spares atomic progress
    apply (World.Preserves.still_trans begins completes).mono
    intro row given bytes transforms
    exact ⟨progress, read, beginning, transforms⟩
  · intro failure read failed
    rw [leaves_of_error failed] at begins
    exact .of_still begins

end Run

namespace Sample

/-- A runner that has not gone through a run. -/
def runner (run : Run) : Runner :=
  { run, progress := { startedAt := default, startTime := 0.0 } }

end Sample

namespace Runner

variable {runner : Runner} {world : World}

/-- Whenever a run with the atomic strategy is stopped, and whatever made it fail: all ways to
directories are open, and every file of the tree holds what it held at first, or what the transformer
returned for that in this run, with the permissions it had, and then it does so from then on. -/
theorem call_survives (proper : world.disk.isProper = true)
    (spares : runner.run.transformer.SparesFiles)
    (atomic : runner.run.settings.writeStrategy = .atomic) :
    world.Preserves (runner.run.Transforms world) (runner.call.leaves world) := by
  rw [call_eq, leaves_map]
  exact Run.start_leaves proper spares atomic

/-- A run that capitalises letters replaces one of two class files. -/
theorem call_survives_capitals :
    Sample.world.disk.isProper = true ∧ (Transformer.capitals "Capitals").SparesFiles ∧
      (Sample.run (.capitals "Capitals") true).settings.writeStrategy = .atomic ∧
      ((Sample.runner (Sample.run (.capitals "Capitals") true)).call.leaves Sample.world).disk.at?
        ["c", "A.class"] = some (.file ⟨[0x41], 0o644, true⟩) ∧
      Sample.world.Preserves ((Sample.run (.capitals "Capitals") true).Transforms Sample.world)
        ((Sample.runner (Sample.run (.capitals "Capitals") true)).call.leaves Sample.world) := by
  have proper : Sample.world.disk.isProper = true := by decide +kernel
  have spares : (Transformer.capitals "Capitals").SparesFiles := fun _ _ _ => keeps_pure _
  have replaced : ((Sample.runner (Sample.run (.capitals "Capitals") true)).call.leaves
      Sample.world).disk.at? ["c", "A.class"] = some (.file ⟨[0x41], 0o644, true⟩) := by
    decide +kernel
  exact ⟨proper, spares, rfl, replaced, call_survives proper spares rfl⟩

end Runner

end Enhance
