import Enhance.Proofs.Program
import Enhance.CommandLine.Arguments

/-!
# What reading the arguments of a command comes to

Looking at the values of options changes nothing, and the arguments of a command are read exactly if they
give options alone and all values suit (`readCommand_ok_iff`).
-/

namespace Enhance.CommandLine

open Program

variable {given : List Given} {specs : List OptionSpec} {arguments : List String} {world after : World}

theorem nodeAt_ok {path : String} {node : Option Node} (done : nodeAt path world = .ok node after) :
    Disk.hasNul (Path.ofString path) = false ∧ world = after := by
  unfold nodeAt at done
  dsimp only at done
  split at done
  · obtain ⟨_, _, thrown, -⟩ := bind_ok.1 done
    exact (throw_ok.1 thrown).elim
  · next noNul =>
      rw [get_bind] at done
      generalize Disk.stat world.disk world.cwd (Path.ofString path) = found at done
      refine ⟨by simpa using noNul, ?_⟩
      cases found with
      | error | ok => exact (pure_ok.1 done).2

/-- Looking whether a value suits its option changes nothing. -/
theorem problemWith_ok {suitability : Suitability} {value : String} {problem : Option String}
    (done : problemWith suitability value world = .ok problem after) : world = after := by
  cases suitability with
  | anything => exact (pure_ok.1 done).2
  | file | directory =>
      obtain ⟨node, looked, looking, done⟩ := bind_ok.1 done
      obtain ⟨-, rfl⟩ := nodeAt_ok looking
      split at done
      · exact (pure_ok.1 done).2
      · exact (pure_ok.1 done).2
  | oneOf choices ignoringCase =>
      have answered (suits : Bool) (words : String) (done : (if suits then pure none else
          pure (some words) : Program (Option String)) world = .ok problem after) : world = after := by
        cases suits with
        | true | false => exact (pure_ok.1 done).2
      exact answered _ _ done

/-- A directory can only be asked about if there is no null character in its name. -/
theorem hasNul_of_problemWith {directory : String} {problem : Option String}
    (done : problemWith .directory directory world = .ok problem after) :
    Disk.hasNul (Path.ofString directory) = false := by
  obtain ⟨node, looked, looking, -⟩ := bind_ok.1 done
  exact (nodeAt_ok looking).1

/-- A choice that an option leaves suits it. -/
theorem problemWith_of_mem {choices : List String} {value : String} (member : value ∈ choices)
    (ignoringCase : Bool) (world : World) :
    problemWith (.oneOf choices ignoringCase) value world = .ok none world := by
  rw [problemWith]
  exact congrFun (if_pos (List.contains_iff_mem.2 (List.mem_map_of_mem member))) world

/-- The value that an option has: the one that is given, or else the usual one. -/
def valueFor? (given : List Given) (spec : OptionSpec) : Option String :=
  (valueOf? given (spec.names.headD "")).or spec.usual

/-- No value is unsuitable exactly if there is no problem with any of them. -/
theorem firstUnsuitable_ok_none_iff :
    firstUnsuitable given specs world = .ok none after ↔ world = after ∧ ∀ spec ∈ specs, ∀ value,
      valueFor? given spec = some value → problemWith spec.suitability value world = .ok none world := by
  induction specs with
  | nil => simp [firstUnsuitable, pure_ok]
  | cons spec specs ih =>
      rw [firstUnsuitable, List.forall_mem_cons, ← valueFor?]
      cases valued : valueFor? given spec with
      | none => simp [ih]
      | some value =>
          simp only [Option.some.injEq, forall_eq', bind_ok]
          constructor
          · rintro ⟨problem, looked, looking, done⟩
            obtain rfl := problemWith_ok looking
            cases problem with
            | some words => cases (pure_ok.1 done).1
            | none =>
                obtain ⟨rfl, rest⟩ := ih.1 done
                exact ⟨rfl, looking, rest⟩
          · rintro ⟨rfl, looking, rest⟩
            exact ⟨none, world, looking, ih.2 ⟨rfl, rest⟩⟩

/-- The arguments of a command are read if they give options alone and all values suit. -/
theorem readCommand_ok_iff : readCommand specs arguments world = .ok (.ok given) after ↔
    readArguments specs false arguments = .ok (given, []) ∧ world = after ∧
      ∀ spec ∈ inOrder specs given, ∀ value, valueFor? given spec = some value →
        problemWith spec.suitability value world = .ok none world := by
  rw [readCommand]
  cases read : readArguments specs false arguments with
  | error error => simp [pure_ok]
  | ok found =>
      obtain ⟨found, left⟩ := found
      constructor
      · intro done
        obtain ⟨unsuitable, looked, looking, done⟩ := bind_ok.1 done
        cases unsuitable with
        | some error => cases (pure_ok.1 done).1
        | none =>
            obtain ⟨same, rfl⟩ := pure_ok.1 done
            split at same
            · next nothing =>
                cases same
                exact ⟨by rw [nothing], firstUnsuitable_ok_none_iff.1 looking⟩
            · cases same
      · rintro ⟨same, rest⟩
        cases same
        exact bind_ok.2 ⟨none, after, firstUnsuitable_ok_none_iff.2 rest, pure_ok.2 ⟨rfl, rfl⟩⟩

end Enhance.CommandLine
