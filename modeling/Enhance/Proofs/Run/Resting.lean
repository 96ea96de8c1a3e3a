import Enhance.Proofs.Run.Handed
import Enhance.Proofs.Run.Settled
import Enhance.Proofs.Scan.Again

/-!
# Class files that rest

A class file rests if there are no new bytes for it.  If the transformer of a run only depends on the bytes
and has nothing to add to what it has made of them, whatever the run has processed rests
(`Run.leaves_of_processing`).  This holds although class files may be links to others, and links are
replaced by files.
-/

namespace Enhance

open Program

/-- The verdict on a class file of which transforming came to this, if it can be written. -/
def Outcome.verdict (path : Path) : Outcome → Verdict
  | .unchanged => .unchanged
  | .failed message cause => .failed (Run.transformDiagnostic path message cause)
  | .transformed _ => .enhanced

/-- The verdict of the next run. -/
def Verdict.again : Verdict → Verdict
  | .enhanced => .unchanged
  | verdict => verdict

namespace Run

variable {run : Run} {rule : ClassFile → Except Failure Answer} {disk disk' : Listing}
  {cwd row place : List String} {path : Path} {verdict : Verdict}

/-! ## Class files that rest -/

/-- Transforming a class file comes to a verdict, and there are no new bytes. -/
def Rests (rule : ClassFile → Except Failure Answer) (disk : Listing) (cwd : List String) (path : Path)
    (verdict : Verdict) : Prop :=
  ∃ outcome, Invocation.glance rule disk cwd path = .ok outcome ∧ outcome.verdict path = verdict ∧
    verdict ≠ .enhanced

/-- Whether a class file rests does not depend on the order of entries. -/
theorem Rests.of_alike (rests : Rests rule disk cwd path verdict) (alike : disk.Alike disk') :
    Rests rule disk' cwd path verdict := by
  obtain ⟨outcome, seen, same, unwritten⟩ := rests
  refine ⟨outcome, ?_, same, unwritten⟩
  rw [← seen, Invocation.glance_of_read (Disk.read_alike alike cwd path)]

theorem Rests.settles (rests : Rests rule disk cwd path verdict) (run : Run) :
    run.Settles rule disk cwd path verdict := by
  obtain ⟨outcome, seen, rfl, unwritten⟩ := rests
  cases outcome with
  | unchanged => exact ⟨.unchanged, by rw [prospect, seen]; rfl, by simp, rfl⟩
  | failed message cause =>
      exact ⟨.failed (transformDiagnostic path message cause), by rw [prospect, seen]; rfl, by simp, rfl⟩
  | transformed bytes => exact absurd rfl unwritten

/-- What is not to be written rests, unless it is for a failure to write. -/
theorem rests_of_prospect {prospect : Prospect} (same : run.prospect rule disk cwd path = .ok prospect)
    (unwritten : ∀ bytes, prospect ≠ .enhanced bytes)
    (written : ∀ diagnostic, prospect.verdict = .failed diagnostic → diagnostic.stage ≠ .persistence) :
    Rests rule disk cwd path prospect.verdict := by
  rw [Run.prospect] at same
  cases seen : Invocation.glance rule disk cwd path with
  | error failure =>
      rw [seen] at same
      cases same
  | ok outcome =>
      rw [seen] at same
      cases outcome with
      | unchanged =>
          cases same
          exact ⟨.unchanged, seen, rfl, by simp [Prospect.verdict]⟩
      | failed message cause =>
          cases same
          exact ⟨.failed message cause, seen, rfl, by simp [Prospect.verdict]⟩
      | transformed bytes =>
          change (run.settings.writeStrategy.preparing disk cwd path >>= _) = _ at same
          cases prepared : run.settings.writeStrategy.preparing disk cwd path with
          | error failure =>
              rw [prepared] at same
              cases same
          | ok problem =>
              rw [prepared] at same
              cases problem with
              | none =>
                  cases same
                  exact absurd rfl (unwritten bytes)
              | some diagnostic =>
                  cases same
                  exact absurd (WriteStrategy.stage_of_preparing prepared) (written diagnostic rfl)

/-- A rule of a transformer has nothing to add to the bytes that it gives. -/
def IsIdempotent (rule : List UInt8 → Except Failure Answer) : Prop :=
  ∀ given bytes, rule given = .ok (.bytes bytes) →
    rule bytes = .ok .nothing ∨ rule bytes = .ok (.bytes bytes)

variable {rule : List UInt8 → Except Failure Answer} {given : List UInt8} {data new : FileData}

/-- A class file that holds what the rule has given rests. -/
theorem rests_of_given (idempotent : IsIdempotent rule) (noNul : Disk.hasNul path = false)
    (found : Disk.stat disk cwd path = .ok (.file new)) (gives : rule given = .ok (.bytes new.bytes)) :
    Rests (fun file => rule file.data) disk cwd path .unchanged := by
  refine ⟨.unchanged, ?_, rfl, nofun⟩
  rcases idempotent given new.bytes gives with nothing | same
  · rw [Invocation.glance_of_file found noNul nothing, Invocation.judged]
  · rw [Invocation.glance_of_file found noNul same, Invocation.judged, if_pos rfl]

/-- A tree in which class files were rewritten by a rule, so that class files that rested still do. -/
structure Rewrites (rule : List UInt8 → Except Failure Answer) (disk disk' : Listing) : Prop where
  renewed : Disk.Renewed disk disk'
  rests : ∀ cwd path verdict, Disk.Steady disk cwd path →
    Rests (fun file => rule file.data) disk cwd path verdict →
      Rests (fun file => rule file.data) disk' cwd path verdict

namespace Rewrites

variable {disk'' : Listing}

theorem refl (disk : Listing) : Rewrites rule disk disk :=
  ⟨.refl disk, fun _ _ _ _ rests => rests⟩

theorem trans (one : Rewrites rule disk disk') (two : Rewrites rule disk' disk'') :
    Rewrites rule disk disk'' :=
  ⟨one.renewed.trans two.renewed, fun cwd path verdict steady rests =>
    two.rests cwd path verdict (one.renewed.steady steady) (one.rests cwd path verdict steady rests)⟩

/-- Rewriting an entry that ends in a file for which there are new bytes.  What rests does not lead
through the entry, as there would be new bytes for it, too. -/
theorem of_sets (ends : Disk.EndsIn disk row place data) (sets : Disk.Sets disk row (some (.file new)) disk')
    (news : rule data.bytes = .ok (.bytes new.bytes)) (differ : new.bytes ≠ data.bytes) :
    Rewrites rule disk disk' := by
  have renewed := Disk.Renewed.of_sets ends sets
  refine ⟨renewed, ?_⟩
  rintro cwd path verdict steady ⟨outcome, seen, same, unwritten⟩
  refine ⟨outcome, ?_, same, unwritten⟩
  rw [← seen]
  apply Invocation.glance_of_stat
  rcases steady with ⟨held, found⟩ | ⟨code, failed, settled⟩
  · obtain ⟨end', leads⟩ := Disk.lookup_of_stat found
    rcases Disk.lookup_file_of_sets ends.isDeadEnd sets leads with ⟨still, -⟩ | ⟨ends', -⟩
    · rw [found, Disk.stat_of_lookup still]
    · obtain ⟨-, rfl⟩ := ends.unique ends'
      rw [Invocation.glance_of_file found (Invocation.hasNul_of_glance seen) news, Invocation.judged,
        if_neg differ] at seen
      cases seen
      exact absurd same.symm unwritten
  · rw [failed, renewed.missing cwd path code failed settled]

end Rewrites

/-! ## What a run leaves -/

variable {start world middle after : World} {rowOf : Path → List String} {paths : List Path}
  {invocation : Invocation} {fates : Fates}

/-- How a world stands in which class files have been rewritten since the start. -/
structure Rewriting (start world : World) : Prop where
  renewed : Disk.Renewed start.disk world.disk
  cwd : world.cwd = start.cwd
  faults : world.faults = []

/-- What is left when there are verdicts on class files: they rest, and the tree looks the same but for
what stands in files and the order of entries, unless one that was written was a link. -/
structure Leaves (rule : List UInt8 → Except Failure Answer) (start world : World) (fates : Fates)
    (after : World) : Prop where
  stage : Rewriting start after
  rewrites : Rewrites rule world.disk after.disk
  rests : ∀ fate ∈ fates, Rests (fun file => rule file.data) after.disk start.cwd fate.1 fate.2.again
  outline : (∀ path ∈ fates.enhanced, ¬ start.IsLink path) →
    world.disk.outline.Alike after.disk.outline

namespace Leaves

theorem nil (stage : Rewriting start world) : Leaves rule start world [] world :=
  ⟨stage, .refl _, by simp, fun _ => .refl _⟩

/-- A class file that rests when it was processed still does when others were. -/
theorem cons (steady : Disk.Steady middle.disk start.cwd path)
    (one : Leaves rule start world [(path, verdict)] middle) (rest : Leaves rule start middle fates after) :
    Leaves rule start world ((path, verdict) :: fates) after := by
  refine ⟨rest.stage, one.rewrites.trans rest.rewrites, List.forall_mem_cons.2 ⟨?_, rest.rests⟩, ?_⟩
  · exact rest.rewrites.rests _ _ _ steady (one.rests _ List.mem_cons_self)
  · intro noLink
    refine (one.outline fun other member => noLink other ?_).trans
      (rest.outline fun other member => noLink other ?_)
    · rw [Fates.mem_enhanced] at member ⊢
      exact List.mem_cons.2 (.inl (List.mem_singleton.1 member))
    · rw [Fates.mem_enhanced] at member ⊢
      exact List.mem_cons_of_mem _ member

/-- What is done before and after class files are processed changes nothing about it. -/
theorem of_calm (begins : world.Calm middle) (leaves : Leaves rule start middle fates after)
    {last : World} (closes : after.Calm last) : Leaves rule start world fates last := by
  obtain ⟨⟨renewed, cwd, faults⟩, rewrites, rests, outline⟩ := leaves
  rw [← closes.disk] at renewed rewrites rests outline
  rw [begins.disk] at rewrites outline
  exact ⟨⟨renewed, closes.cwd.trans cwd, closes.faults faults⟩, rewrites, rests, outline⟩

end Leaves

/-- A class file for which nothing was written rests, and all else is as it was. -/
theorem leaves_of_calm (stage : Rewriting start world) (calm : world.Calm after)
    (rests : Rests (fun file => rule file.data) world.disk world.cwd path verdict) :
    Leaves rule start world [(path, verdict)] after := by
  have same : verdict.again = verdict := by
    cases verdict with
    | unchanged | failed => rfl
    | enhanced =>
        obtain ⟨outcome, -, -, unwritten⟩ := rests
        exact absurd rfl unwritten
  refine ⟨⟨?_, calm.cwd.trans stage.cwd, calm.faults stage.faults⟩, ?_, ?_, fun _ => ?_⟩
  · rw [calm.disk]
    exact stage.renewed
  · rw [calm.disk]
    exact .refl _
  · rw [List.forall_mem_singleton, same, calm.disk, ← stage.cwd]
    exact rests
  · rw [calm.disk]
    exact .refl _

/-- A class file to which new bytes were written rests, and so does what has rested before. -/
theorem leaves_of_puts (stage : Rewriting start world)
    (placed : Scanner.Placed start.disk start.cwd paths rowOf) (member : path ∈ paths)
    (idempotent : IsIdempotent rule) (noNul : Disk.hasNul path = false)
    (found : Disk.stat world.disk world.cwd path = .ok (.file data))
    (news : rule data.bytes = .ok (.bytes new.bytes)) (differ : new.bytes ≠ data.bytes)
    (puts : world.Puts (rowOf path) (some (.file new)) after) :
    Leaves rule start world [(path, .enhanced)] after := by
  rw [stage.cwd] at found
  obtain ⟨fits, leaf, -⟩ := placed.leaf_of_stat member stage.renewed.ways found
  obtain ⟨place, looked⟩ := Disk.lookup_of_stat found
  have ends := leaf.leads.endsIn looked
  have rewrites : Rewrites rule world.disk after.disk :=
    .of_sets ends puts.sets.disk news differ
  have leads := leaf.leads.of_sameWays rewrites.renewed.ways
  refine ⟨⟨stage.renewed.trans rewrites.renewed, puts.sets.cwd.trans stage.cwd, puts.faults⟩, rewrites,
    ?_, fun noLink => ?_⟩
  · rw [List.forall_mem_singleton]
    exact rests_of_given idempotent noNul (leads.stat_file puts.sets.disk.here) news
  · obtain ⟨node, there, plain⟩ := placed.there path member
    cases node with
    | dir inside => cases plain
    | link target =>
        exact absurd ⟨_, target, (placed.leads path member fits).lookup there⟩
          (noLink path (Fates.mem_enhanced.2 List.mem_cons_self))
    | file old =>
        rcases stage.renewed.entry _ _ there rfl with isFile | ⟨_, isFile⟩
        · exact Listing.outline_alike_of_sets puts.sets.disk isFile
        · exact Listing.outline_alike_of_sets puts.sets.disk isFile

/-- Processing a class file leaves it at rest, unless it could not be written. -/
theorem leaves_of_judged (stage : Rewriting start world)
    (placed : Scanner.Placed start.disk start.cwd paths rowOf) (member : path ∈ paths)
    (computes : invocation.transformer.Computes fun file => rule file.data)
    (idempotent : IsIdempotent rule) (judged : run.judge invocation path world = .ok verdict after)
    (written : ∀ diagnostic, verdict = .failed diagnostic → diagnostic.stage ≠ .persistence) :
    Leaves rule start world [(path, verdict)] after := by
  cases same : run.prospect (fun file => rule file.data) world.disk world.cwd path with
  | error failure =>
      obtain ⟨failed, fails, -⟩ := judge_gives computes stage.faults same nofun
      rw [judged] at fails
      cases fails
  | ok prospect =>
      have calmly (unwritten : ∀ bytes, prospect ≠ .enhanced bytes) :
          Leaves rule start world [(path, verdict)] after := by
        obtain ⟨ended, gives, calm⟩ := judge_gives computes stage.faults same fun bytes isEnhanced =>
          unwritten bytes (Except.ok.inj isEnhanced)
        rw [judged] at gives
        cases gives
        exact leaves_of_calm stage calm (rests_of_prospect same unwritten written)
      cases prospect with
      | unchanged | failed => exact calmly nofun
      | enhanced bytes =>
          obtain ⟨seen, -⟩ := of_prospect_enhanced same
          obtain ⟨data, found, noNul, news, differ⟩ := Invocation.of_glance_transformed seen
          have leaf := found
          rw [stage.cwd] at leaf
          obtain ⟨-, leaf, -⟩ := placed.leaf_of_stat member stage.renewed.ways leaf
          rw [← stage.cwd] at leaf
          obtain ⟨place, looked⟩ := Disk.lookup_of_stat found
          obtain ⟨node, there⟩ := Option.ne_none_iff_exists'.1 (leaf.leads.endsIn looked).at?_ne_none
          obtain ⟨ended, gives, puts⟩ :=
            judge_puts computes stage.faults same found leaf there
          rw [judged] at gives
          cases gives
          exact leaves_of_puts stage placed member idempotent noNul found news differ puts

/-- Processing class files leaves all of them at rest, if none of them could not be written. -/
theorem leaves_of_processing (placed : Scanner.Placed start.disk start.cwd paths rowOf)
    (steady : ∀ path ∈ paths, Disk.Steady start.disk start.cwd path)
    (computes : invocation.transformer.Computes fun file => rule file.data)
    (idempotent : IsIdempotent rule) (judged : Judged run invocation world fates after)
    (stage : Rewriting start world) (known : ∀ path ∈ fates.paths, path ∈ paths)
    (written : ∀ diagnostic ∈ fates.diagnostics, diagnostic.stage ≠ .persistence) :
    Leaves rule start world fates after := by
  induction judged with
  | nil world => exact .nil stage
  | @cons path verdict fates world middle after judged rest ih =>
      have member := known path List.mem_cons_self
      have one : Leaves rule start world [(path, verdict)] middle := by
        refine leaves_of_judged stage placed member computes idempotent judged fun diagnostic failed => ?_
        exact written diagnostic (Fates.mem_diagnostics.2 ⟨path, failed ▸ List.mem_cons_self⟩)
      refine .cons (one.stage.renewed.steady (steady path member)) one (ih one.stage ?_ ?_)
      · exact fun other isLater => known other (List.mem_cons_of_mem _ isLater)
      · intro diagnostic isLater
        obtain ⟨other, isFate⟩ := Fates.mem_diagnostics.1 isLater
        exact written diagnostic (Fates.mem_diagnostics.2 ⟨other, List.mem_cons_of_mem _ isFate⟩)

end Run

end Enhance
