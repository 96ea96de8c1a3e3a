import Enhance.Proofs.Replacement.Faultless
import Enhance.Proofs.Run.Processing

/-!
# What becomes of class files that no fault strikes

When no fault strikes, what becomes of a class file can be computed from the files (`Run.prospect`), and
processing the class file brings just that (`Run.judge_gives`, `Run.judge_puts`).
-/

namespace Enhance

open Program

namespace Invocation

variable {rule : ClassFile → Except Failure Answer} {disk disk' : Listing} {cwd : List String}
  {cwd' : List String} {path : Path} {bytes : List UInt8}

/-- What transforming a class file comes to depends on what the path leads to. -/
theorem glance_of_read (same : Disk.read disk' cwd' path = Disk.read disk cwd path) :
    glance rule disk' cwd' path = glance rule disk cwd path := by
  rw [glance, glance, Classpath.readFile, Classpath.readFile, same]

theorem glance_of_stat (same : Disk.stat disk' cwd' path = Disk.stat disk cwd path) :
    glance rule disk' cwd' path = glance rule disk cwd path :=
  glance_of_read (by rw [Disk.read, Disk.read, same])

/-- A path that holds a null character cannot be looked at. -/
theorem hasNul_of_glance {outcome : Outcome} (seen : glance rule disk cwd path = .ok outcome) :
    Disk.hasNul path = false := by
  cases noNul : Disk.hasNul path with
  | false => rfl
  | true =>
      rw [glance, Classpath.readFile, if_pos noNul] at seen
      cases seen

/-- What transforming a class file comes to that can be read. -/
theorem glance_of_file {data : FileData} {answer : Answer}
    (found : Disk.stat disk cwd path = .ok (.file data)) (noNul : Disk.hasNul path = false)
    (answers : rule ⟨data.bytes, path.name⟩ = .ok answer) :
    glance rule disk cwd path = judged path data.bytes (.ok answer) := by
  have read : Classpath.readFile disk cwd path = .ok data.bytes := by
    rw [Classpath.readFile, noNul, Disk.read, found]
    rfl
  rw [glance, read]
  change caughtOrdinary (rule ⟨data.bytes, path.name⟩) >>= judged path data.bytes = _
  rw [answers]
  rfl

/-- A class file with new bytes was read, and the rule gives these bytes for what it holds. -/
theorem of_glance_transformed (news : glance rule disk cwd path = .ok (.transformed bytes)) :
    ∃ data, Disk.stat disk cwd path = .ok (.file data) ∧ Disk.hasNul path = false ∧
      rule ⟨data.bytes, path.name⟩ = .ok (.bytes bytes) ∧ bytes ≠ data.bytes := by
  have noNul := hasNul_of_glance news
  rw [glance] at news
  cases read : Classpath.readFile disk cwd path with
  | error failure =>
      rw [read] at news
      cases failure <;> cases news
  | ok given =>
      obtain ⟨data, found, rfl⟩ := Classpath.stat_of_readFile read
      refine ⟨data, found, noNul, ?_⟩
      rw [read] at news
      change caughtOrdinary (rule ⟨data.bytes, path.name⟩) >>= judged path data.bytes = _ at news
      cases answers : rule ⟨data.bytes, path.name⟩ with
      | error failure =>
          rw [answers, caughtOrdinary] at news
          split at news <;> cases news
      | ok answer =>
          rw [answers] at news
          obtain ⟨isBytes, ne⟩ := judged_transformed.1 news
          cases isBytes
          exact ⟨rfl, ne⟩

end Invocation

/-- What is to become of a class file. -/
inductive Prospect where
  | unchanged
  | failed (diagnostic : Diagnostic)
  /-- It is to be written with these bytes. -/
  | enhanced (bytes : List UInt8)

/-- The verdict on a class file that such is to become of. -/
def Prospect.verdict : Prospect → Verdict
  | .unchanged => .unchanged
  | .failed diagnostic => .failed diagnostic
  | .enhanced _ => .enhanced

namespace Run

variable {run : Run} {invocation : Invocation} {rule : ClassFile → Except Failure Answer}
  {disk disk' : Listing} {cwd row : List String} {path : Path} {world : World}

/-- What is to become of a class file when no fault strikes. -/
def prospect (run : Run) (rule : ClassFile → Except Failure Answer) (disk : Listing)
    (cwd : List String) (path : Path) : Except Failure Prospect := do
  match ← Invocation.glance rule disk cwd path with
  | .unchanged => pure .unchanged
  | .failed message cause => pure (.failed (transformDiagnostic path message cause))
  | .transformed bytes =>
    match ← run.settings.writeStrategy.preparing disk cwd path with
    | none => pure (.enhanced bytes)
    | some diagnostic => pure (.failed diagnostic)

theorem refuse_gives (diagnostic : Diagnostic) (world : World) :
    (run.refuse diagnostic).Gives world (.ok (.failed diagnostic)) := by
  refine (gives_report run.sink diagnostic world).bind_ok fun middle _ => ?_
  cases run.policy.decide diagnostic with
  | abort => exact (gives_log _ middle).bind_ok fun last _ => gives_pure _ last
  | proceed => exact gives_pure _ middle

theorem traced_gives (computes : invocation.transformer.Computes rule) (faultless : world.faults = [])
    (path : Path) : (traced "weaver.enhance_class" [("weaver.class", .str path.toString)]
      (invocation.run path)).Gives world (Invocation.glance rule world.disk world.cwd path) := by
  have runs (opened : World) (faultless : opened.faults = []) :
      (invocation.run path).Gives opened (Invocation.glance rule opened.disk opened.cwd path) :=
    Invocation.run_gives computes faultless path
  exact .traced (runs _ faultless)

/-- Processing a class file that is not to be written comes to its verdict and changes nothing. -/
theorem judge_gives (computes : invocation.transformer.Computes rule) (faultless : world.faults = [])
    {result : Except Failure Prospect} (same : run.prospect rule world.disk world.cwd path = result)
    (unwritten : ∀ bytes, result ≠ .ok (.enhanced bytes)) :
    (run.judge invocation path).Gives world (result.map Prospect.verdict) := by
  have traces := traced_gives computes faultless path
  rw [prospect] at same
  cases news : Invocation.glance rule world.disk world.cwd path with
  | error failure =>
      rw [news] at traces same
      subst same
      exact traces.bind_error
  | ok outcome =>
      rw [news] at traces same
      cases outcome with
      | unchanged =>
          subst same
          refine traces.bind_ok fun middle _ => ?_
          exact (gives_log _ middle).bind_ok fun last _ => gives_pure _ last
      | failed message cause =>
          subst same
          exact traces.bind_ok fun middle _ => refuse_gives _ middle
      | transformed bytes =>
          change (run.settings.writeStrategy.preparing world.disk world.cwd path >>= _) = _ at same
          refine traces.bind_ok fun middle calm => ?_
          rw [← calm.disk, ← calm.cwd] at same
          cases prepared : run.settings.writeStrategy.preparing middle.disk middle.cwd path with
          | error failure =>
              rw [prepared] at same
              subst same
              exact (WriteStrategy.write_gives (calm.faults faultless) prepared nofun).bind_error
          | ok problem =>
              rw [prepared] at same
              cases problem with
              | none => exact absurd same.symm (unwritten bytes)
              | some diagnostic =>
                  subst same
                  exact (WriteStrategy.write_gives (calm.faults faultless) prepared nofun).bind_ok
                    fun last _ => refuse_gives _ last

/-- A class file is to be written if there are new bytes for it and it can be written. -/
theorem of_prospect_enhanced {bytes : List UInt8}
    (same : run.prospect rule disk cwd path = .ok (.enhanced bytes)) :
    Invocation.glance rule disk cwd path = .ok (.transformed bytes) ∧
      run.settings.writeStrategy.preparing disk cwd path = .ok none := by
  rw [prospect] at same
  cases news : Invocation.glance rule disk cwd path with
  | error failure =>
      rw [news] at same
      cases same
  | ok outcome =>
      rw [news] at same
      cases outcome with
      | unchanged | failed => cases same
      | transformed other =>
          change (run.settings.writeStrategy.preparing disk cwd path >>= _) = _ at same
          cases prepared : run.settings.writeStrategy.preparing disk cwd path with
          | error failure =>
              rw [prepared] at same
              cases same
          | ok problem =>
              rw [prepared] at same
              cases problem with
              | some diagnostic => cases same
              | none =>
                  cases same
                  exact ⟨rfl, rfl⟩

/-- Processing a class file that is to be written puts the new bytes in its place. -/
theorem judge_puts {node : Node} {data : FileData} {bytes : List UInt8}
    (computes : invocation.transformer.Computes rule) (faultless : world.faults = [])
    (same : run.prospect rule world.disk world.cwd path = .ok (.enhanced bytes))
    (found : Disk.stat world.disk world.cwd path = .ok (.file data)) (leaf : world.Leaf path row)
    (there : world.disk.at? row = some node) :
    ∃ after, run.judge invocation path world = .ok .enhanced after ∧ world.Puts row
      (some (.file ⟨bytes, run.settings.writeStrategy.modeOf data, true⟩)) after := by
  obtain ⟨news, prepared⟩ := of_prospect_enhanced same
  obtain ⟨-, -, noNul, -, -⟩ := Invocation.of_glance_transformed news
  obtain ⟨middle, traced, calm⟩ := traced_gives computes faultless path
  rw [news] at traced
  rw [← calm.disk, ← calm.cwd] at prepared found
  rw [← calm.disk] at there
  obtain ⟨written, writing, puts⟩ := WriteStrategy.write_puts (calm.faults faultless) noNul
    (leaf.after_calm calm) there found prepared
  have noted : (do
      log (logEntry .info "class_enhanced" [("path", .str path.toString)])
      pure Verdict.enhanced).Gives written (.ok .enhanced) :=
    (gives_log _ written).bind_ok fun last _ => gives_pure _ last
  obtain ⟨after, ends, calm'⟩ := noted
  exact ⟨after, bind_ok.2 ⟨_, middle, traced, bind_ok.2 ⟨none, written, writing, ends⟩⟩,
    (puts.before_calm calm').after_calm calm⟩

end Run

end Enhance
