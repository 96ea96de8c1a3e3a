import Enhance.Proofs.Replacement

/-!
# Writing class files never fails

Every step of writing a class file fails with a system error if it fails, and these are caught, so that
writing always comes to an end with a diagnostic or with none (`WriteStrategy.write_returns`).  For this
neither the path of the class file nor the working directory may hold the character that ends texts in
system calls.
-/

namespace Enhance

open Program

namespace Temporary

theorem nul_notMem_nameOf (n : Nat) : '\x00' ∉ (nameOf n).toList := by
  obtain ⟨digits, areDigits, text⟩ := toList_nameOf n
  have plain : '\x00' ∉ digits := by
    intro member
    exact absurd (areDigits _ member) (by decide)
  rw [text]
  simp [front, back, plain]

end Temporary

namespace Replacement

variable {path temporary : Path} {world after : World} {bytes : List UInt8}

/-- The names on the way to a directory for temporary files come from the working directory and from
the path of the class file. -/
theorem mem_names_temporaryDir {cwd : List String} {name : String}
    (member : name ∈ (temporaryDir cwd path).names) :
    name ∈ (Disk.cwdPath cwd).names ∨ name ∈ path.names := by
  have unfolded := (Path.foldBack_subset member).resolve_left (by simp)
  have inParent (isName : name ∈ path.parent.names) : name ∈ path.names :=
    List.dropLast_subset _ isName
  rw [Path.absolute] at unfolded
  by_cases relative : path.parent.anchor = .relative
  · rw [(Path.append_relative _ relative).2, List.mem_append] at unfolded
    exact unfolded.imp id inParent
  · rw [Path.append_absolute relative] at unfolded
    exact .inr (inParent unfolded)

theorem hasNul_temporaryPath (noNul : Disk.hasNul path = false) {cwd : List String}
    (noNul' : Disk.hasNul (Disk.cwdPath cwd) = false) (disk : Listing) :
    Disk.hasNul (temporaryPath disk cwd (temporaryDir cwd path)) = false := by
  rw [Disk.hasNul_eq_false_iff] at noNul noNul' ⊢
  obtain ⟨n, isChild⟩ : ∃ n, temporaryPath disk cwd (temporaryDir cwd path) =
      (temporaryDir cwd path).child (Temporary.nameOf n) := ⟨_, rfl⟩
  have named := (Disk.isEntryName_iff.1 (Temporary.isEntryName_nameOf n)).1
  rw [isChild, Path.names_child named]
  intro name member
  rcases List.mem_append.1 member with onTheWay | last
  · exact (mem_names_temporaryDir onTheWay).elim (noNul' name) (noNul name)
  · rw [List.mem_singleton.1 last]
    exact Temporary.nul_notMem_nameOf n

theorem hasNul_of_makeTemporary (noNul : Disk.hasNul path = false)
    (noNul' : Disk.hasNul (Disk.cwdPath world.cwd) = false)
    (done : makeTemporary path world = .ok temporary after) : Disk.hasNul temporary = false := by
  obtain ⟨_, struck, asked, done⟩ := bind_ok.1 done
  have quiet := (strike_quiet _ _).of_ok asked
  rw [← quiet.cwd] at noNul'
  rw [get_bind] at done
  obtain ⟨_, changed, -, same⟩ := bind_ok.1 done
  obtain ⟨rfl, -⟩ := pure_ok.1 same
  exact hasNul_temporaryPath noNul noNul' struck.disk

/-! ## Single steps -/

theorem makeTemporary_failsBySystem (noNul : Disk.hasNul path = false)
    (noNul' : Disk.hasNul (Disk.cwdPath world.cwd) = false) :
    (makeTemporary path).FailsBySystem world := by
  apply (strike_failsBySystem _ _ _).bind
  intro _ struck asked
  have quiet := (strike_quiet _ _).of_ok asked
  rw [← quiet.cwd] at noNul'
  intro failure after failed
  rw [get_bind] at failed
  rcases bind_error.1 failed with making | ⟨_, _, _, same⟩
  · exact change_failsBySystem (hasNul_temporaryPath noNul noNul' _) _ _ _ _ making
  · exact (pure_error.1 same).elim

theorem writeAll_failsBySystem (noNul : Disk.hasNul path = false) (bytes : List UInt8)
    (world : World) : (writeAll path bytes).FailsBySystem world :=
  (change_failsBySystem noNul _ _).bind fun _ _ _ => strike_failsBySystem _ _ _

theorem copyMode_failsBySystem (noNul : Disk.hasNul path = false)
    (noNul' : Disk.hasNul temporary = false) (world : World) :
    (copyMode path temporary).FailsBySystem world := by
  apply (strike_failsBySystem _ _ _).bind
  intro _ struck _
  apply FailsBySystem.bind
  · intro failure after failed
    obtain ⟨answered, -⟩ := ask_error.1 failed
    rw [noNul] at answered
    cases told : Disk.modeOf struck.disk struck.cwd path with
    | ok mode => simp [told] at answered
    | error code =>
        simp only [Bool.false_eq_true, ↓reduceIte, told, mapError_error] at answered
        cases answered
        exact ⟨_, rfl⟩
  · intro mode middle _
    exact change_failsBySystem noNul' _ _

theorem replace_failsBySystem (noNul : Disk.hasNul path = false) (temporary : Path)
    (world : World) : (replace temporary path).FailsBySystem world := by
  apply (strike_failsBySystem _ _ _).bind
  intro _ struck _ failure after failed
  obtain ⟨called, -⟩ := alter_error.1 failed
  rw [noNul] at called
  cases renamed : Disk.rename struck.disk struck.cwd temporary path with
  | ok disk => simp [renamed] at called
  | error code =>
      simp only [Bool.false_eq_true, ↓reduceIte, renamed, mapError_error] at called
      cases called
      exact ⟨_, rfl⟩

theorem remove_failsBySystem (noNul : Disk.hasNul path = false) (world : World) :
    (remove path).FailsBySystem world :=
  (strike_failsBySystem _ _ _).bind fun _ _ _ => change_failsBySystem noNul _ _

theorem makeAnew_failsBySystem (noNul : Disk.hasNul path = false) (world : World) :
    (makeAnew path).FailsBySystem world :=
  (strike_failsBySystem _ _ _).bind fun _ _ _ => change_failsBySystem noNul _ _

/-! ## The strategies -/

theorem discard_returns (noNul : Disk.hasNul temporary = false) (world : World) :
    (discard temporary).Returns world := by
  apply (remove_failsBySystem noNul world).returns.bind
  intro removed middle _
  cases removed with
  | ok => exact returns_pure () middle
  | error error => exact ⟨(), _, rfl⟩

theorem replaceAtomically_returns (noNul : Disk.hasNul path = false)
    (noNul' : Disk.hasNul (Disk.cwdPath world.cwd) = false) (bytes : List UInt8) :
    (replaceAtomically path bytes).Returns world := by
  rw [replaceAtomically, Returns, get_bind]
  apply (makeTemporary_failsBySystem noNul noNul').returns.bind
  intro made first making
  cases made with
  | error error => exact returns_pure _ first
  | ok temporary =>
      have plain := hasNul_of_makeTemporary noNul noNul' (catchSystem_value.1 making)
      have discarded (found : Option Diagnostic) (world : World) :
          (do discard temporary; pure found : Program (Option Diagnostic)).Returns world :=
        (discard_returns plain world).bind fun _ last _ => returns_pure found last
      have fills : (do writeAll temporary bytes; copyMode path temporary).FailsBySystem first :=
        (writeAll_failsBySystem plain bytes first).bind fun _ middle _ =>
          copyMode_failsBySystem noNul plain middle
      apply fills.returns.bind
      intro filled second _
      cases filled with
      | error error => exact discarded _ second
      | ok =>
          apply (replace_failsBySystem noNul temporary second).returns.bind
          intro replaced third _
          cases replaced with
          | error error => exact discarded _ third
          | ok => exact returns_pure none third

theorem deleteAndRecreate_returns (noNul : Disk.hasNul path = false) (bytes : List UInt8)
    (world : World) : (deleteAndRecreate path bytes).Returns world := by
  rw [deleteAndRecreate, Returns, get_bind]
  apply (remove_failsBySystem noNul world).returns.bind
  intro removed first _
  cases removed with
  | error error => exact returns_pure _ first
  | ok =>
      apply (makeAnew_failsBySystem noNul first).returns.bind
      intro made second _
      cases made with
      | error error => exact returns_pure _ second
      | ok =>
          apply (writeAll_failsBySystem noNul bytes second).returns.bind
          intro written third _
          cases written with
          | error error => exact returns_pure _ third
          | ok => exact returns_pure none third

end Replacement

namespace WriteStrategy

open Replacement

variable {path : Path} {world : World}

theorem noted_returns {write : Program (Option Diagnostic)} {entry : LogEntry}
    {entryOf : Diagnostic → LogEntry} (returns : write.Returns world) :
    (do
      let problem ← write
      match problem with
      | none => log entry
      | some diagnostic => log (entryOf diagnostic)
      pure problem : Program (Option Diagnostic)).Returns world := by
  apply returns.bind
  intro problem middle _
  cases problem with
  | none | some diagnostic => exact ⟨_, _, rfl⟩

/-- Writing a class file comes to an end, whatever the system does. -/
theorem write_returns (strategy : WriteStrategy) (noNul : Disk.hasNul path = false)
    (noNul' : Disk.hasNul (Disk.cwdPath world.cwd) = false) (bytes : List UInt8) :
    (strategy.write path bytes).Returns world := by
  cases strategy with
  | atomic => exact noted_returns (replaceAtomically_returns noNul noNul' bytes)
  | recreate => exact noted_returns (deleteAndRecreate_returns noNul bytes world)

/-! ## The name of a class file -/

namespace Sample

theorem isName_sample : ∀ name ∈ ["x.class"], isName name = true := by decide

end Sample

end WriteStrategy

end Enhance
