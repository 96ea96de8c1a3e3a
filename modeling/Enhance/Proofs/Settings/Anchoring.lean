import Enhance.Settings.Basic

/-!
# Anchoring settings

Settings that are anchored at a base mean all their paths from there: that of the class files and those of
the dependencies that have a file (`Settings.paths`).  Anchoring is an action of joining paths, it is over
once the base is absolute, and it touches nothing but these paths (`Settings.relativeTo_acts`).
-/

namespace Enhance

namespace Path

/-- Nothing is gained by going on from the working directory. -/
@[simp] theorem here_append (path : Path) : here / path = path := by
  by_cases relative : path.anchor = .relative
  · obtain ⟨anchor, names⟩ := append_relative here relative
    exact ext (by rw [anchor, relative]; rfl) (by rw [names]; rfl)
  · exact append_absolute relative

/-- An absolute path is meant from the root whatever it is joined to. -/
theorem append_of_isAbsolute {path : Path} (absolute : path.isAbsolute = true) (base : Path) :
    base / path = path :=
  append_absolute (by simpa [isAbsolute] using absolute)

end Path

namespace Settings

variable {settings : Settings}

/-- The paths in settings. -/
def paths (settings : Settings) : List Path :=
  settings.classesDir :: settings.dependencies.filterMap Dependency.file

/-- Settings in which every path is replaced by its image. -/
def mapPaths (image : Path → Path) (settings : Settings) : Settings :=
  { settings with
    classesDir := image settings.classesDir
    dependencies := settings.dependencies.map fun dependency =>
      { dependency with file := dependency.file.map image } }

theorem relativeTo_eq (settings : Settings) (base : Path) :
    settings.relativeTo base = settings.mapPaths (base / ·) := rfl

theorem paths_mapPaths (image : Path → Path) (settings : Settings) :
    (settings.mapPaths image).paths = settings.paths.map image := by
  simp only [paths, mapPaths, List.map_cons, List.filterMap_map, List.map_filterMap]
  rfl

theorem mapPaths_mapPaths (first second : Path → Path) (settings : Settings) :
    (settings.mapPaths first).mapPaths second = settings.mapPaths (second ∘ first) := by
  simp [mapPaths, Function.comp_def]

/-- Where no path is moved, nothing is. -/
theorem mapPaths_of_fixed {image : Path → Path} (fixed : ∀ path ∈ settings.paths, image path = path) :
    settings.mapPaths image = settings := by
  have directory : image settings.classesDir = settings.classesDir := fixed _ List.mem_cons_self
  have files : settings.dependencies.map (fun dependency =>
      { dependency with file := dependency.file.map image }) = settings.dependencies := by
    refine (List.map_congr_left fun dependency member => ?_).trans (List.map_id _)
    have same : dependency.file.map image = dependency.file := by
      cases shown : dependency.file with
      | none => rfl
      | some path =>
          have isPath : path ∈ settings.paths :=
            List.mem_cons_of_mem _ (List.mem_filterMap.2 ⟨dependency, member, shown⟩)
          rw [Option.map_some, fixed path isPath]
    rw [same, id]
  rw [mapPaths, directory, files]

/-- Settings without relative paths mean the same from everywhere. -/
theorem relativeTo_of_absolute (absolute : ∀ path ∈ settings.paths, path.isAbsolute = true)
    (base : Path) : settings.relativeTo base = settings :=
  mapPaths_of_fixed fun path member => Path.append_of_isAbsolute (absolute path member) base

/-- Seen from an absolute base, all paths are absolute. -/
theorem isAbsolute_of_mem_paths {base path : Path} (absolute : base.isAbsolute = true)
    (member : path ∈ (settings.relativeTo base).paths) : path.isAbsolute = true := by
  rw [relativeTo_eq, paths_mapPaths] at member
  obtain ⟨inner, -, rfl⟩ := List.mem_map.1 member
  exact Path.isAbsolute_append absolute

/-- Anchoring is an action of joining paths: anchoring at the working directory changes nothing, and
anchoring at one base and then at a second one is anchoring at the first one seen from the second one.
After an absolute base all paths are absolute and no further base matters.  What changes are the paths
alone: a dependency keeps its place, its scope and its coordinates, and has a file if it had one. -/
theorem relativeTo_acts (settings : Settings) (first second : Path) :
    settings.relativeTo .here = settings ∧
    (settings.relativeTo first).relativeTo second = settings.relativeTo (second / first) ∧
    (first.isAbsolute = true →
      (∀ path ∈ (settings.relativeTo first).paths, path.isAbsolute = true) ∧
      (settings.relativeTo first).relativeTo second = settings.relativeTo first) ∧
    (settings.relativeTo first).classesDir = first / settings.classesDir ∧
    (settings.relativeTo first).dependencies.map Dependency.file =
      settings.dependencies.map (fun dependency => dependency.file.map (first / ·)) ∧
    (settings.relativeTo first).dependencies.map Dependency.scope =
      settings.dependencies.map Dependency.scope ∧
    (settings.relativeTo first).dependencies.map Dependency.id =
      settings.dependencies.map Dependency.id ∧
    { settings.relativeTo first with
      classesDir := settings.classesDir, dependencies := settings.dependencies } = settings := by
  refine ⟨?here, ?twice, fun absolute => ⟨?absolute, ?ended⟩, rfl, ?files, ?scopes, ?ids, rfl⟩
  case here => exact mapPaths_of_fixed fun path _ => Path.here_append path
  case twice =>
    simp only [relativeTo_eq, mapPaths_mapPaths]
    congr 1
    funext path
    exact (Path.append_assoc second first path).symm
  case absolute => exact fun path => isAbsolute_of_mem_paths absolute
  case ended => exact relativeTo_of_absolute (fun path => isAbsolute_of_mem_paths absolute) second
  case files | scopes | ids =>
    rw [relativeTo_eq, mapPaths, List.map_map]
    rfl

/-- Settings with a relative directory, a library next to their own directory, a library of the system and
one that was not found. -/
def Sample.shared : Settings :=
  { dependencies := [
      { file := some (Path.ofString "../libs/api.jar"), scope := .provided },
      { file := some (Path.ofString "//host/rt.jar"), scope := .system, id := some "rt" },
      { id := some "lost" }] }

/-- Anchored at an absolute base, they stay where they are. -/
theorem relativeTo_acts_shared :
    (Path.ofString "/srv/conf").isAbsolute = true ∧
    (Sample.shared.relativeTo (.ofString "/srv/conf")).paths.map Path.toString =
      ["/srv/conf/target/classes", "/srv/conf/../libs/api.jar", "//host/rt.jar"] ∧
    (Sample.shared.relativeTo (.ofString "/srv/conf")).relativeTo (.ofString "../x") =
      Sample.shared.relativeTo (.ofString "/srv/conf") ∧
    (Sample.shared.relativeTo (.ofString "conf")).relativeTo (.ofString "../x") =
      Sample.shared.relativeTo (.ofString "../x/conf") := by
  have absolute : (Path.ofString "/srv/conf").isAbsolute = true := by decide +kernel
  have joined : Path.ofString "../x" / Path.ofString "conf" = .ofString "../x/conf" := by
    decide +kernel
  obtain ⟨-, -, ended, -⟩ := relativeTo_acts Sample.shared (.ofString "/srv/conf") (.ofString "../x")
  obtain ⟨-, twice, -⟩ := relativeTo_acts Sample.shared (.ofString "conf") (.ofString "../x")
  exact ⟨absolute, by decide +kernel, (ended absolute).2, joined ▸ twice⟩

end Settings

end Enhance
