import Enhance.Proofs.Disk.Renewed
import Enhance.Proofs.Scan

/-!
# Scanning a tree in which files were renewed

A scan that found class files finds the same ones when files were put in the place of entries that ended
in files (`Scanner.scan_again`).  It goes through the same directories; a link that led to a file still
does, or has become a file; and a link that led nowhere still does.  The class files are found in the same
order if the directories list their entries in the same order.
-/

namespace Enhance

namespace Scanner

open Disk

variable {scanner : Scanner} {directory : Path}
  {disk disk' inside inside' listing listing' rest : Listing} {cwd place row : List String}
  {opened opened' : List (List String)} {name first : String} {node : Node}

/-! ## Directories that are listed -/

/-- A row of names leads to a directory below a directory, and no path on the way there is too long. -/
structure Reaches (directory : Path) (listing : Listing) (row : List String) : Prop where
  isDir : listing.bareAt? row = some (.dir .empty)
  short : ∀ front, front <+: row → front ≠ [] →
    (directory.descend front).toString.utf8ByteSize ≤ pathLimit

theorem reaches_under : Reaches directory (.cons name (.dir inside) rest) (name :: row) ↔
    Reaches (directory.child name) inside row ∧
      (directory.child name).toString.utf8ByteSize ≤ pathLimit := by
  have there : (Listing.cons name (.dir inside) rest).bareAt? (name :: row) = inside.bareAt? row := by
    rw [Listing.bareAt?, Listing.at?_cons_dir, Listing.bareAt?]
  constructor
  · rintro ⟨isDir, short⟩
    refine ⟨⟨there ▸ isDir, fun front inRow _ => ?_⟩, ?_⟩
    · exact short (name :: front) (by simpa using inRow) (by simp)
    · exact short [name] (by simp) (by simp)
  · rintro ⟨⟨isDir, short⟩, here⟩
    refine ⟨there ▸ isDir, fun front inRow more => ?_⟩
    rcases List.prefix_cons_iff.1 inRow with rfl | ⟨others, rfl, below⟩
    · contradiction
    · by_cases none : others = []
      · subst none
        exact here
      · exact short others below none

theorem reaches_behind (ne : name ≠ first) :
    Reaches directory (.cons name node rest) (first :: row) ↔ Reaches directory rest (first :: row) := by
  have there : (Listing.cons name node rest).bareAt? (first :: row) = rest.bareAt? (first :: row) :=
    Listing.bareAt?_cons_of_ne ne row
  constructor
  · rintro ⟨isDir, short⟩
    exact ⟨there ▸ isDir, short⟩
  · rintro ⟨isDir, short⟩
    exact ⟨there ▸ isDir, short⟩

/-- Nothing is reached under a name that no entry has. -/
theorem not_reaches_free (free : rest.find? name = none) : ¬ Reaches directory rest (name :: row) := by
  rintro ⟨isDir, -⟩
  rw [Listing.bareAt?_eq_none_of_find? free] at isDir
  cases isDir

/-- Nothing is reached under the name of what is no directory. -/
theorem not_reaches_leaf (leaf : node.isDir = false) :
    ¬ Reaches directory (.cons name node rest) (name :: row) := by
  rintro ⟨isDir, -⟩
  rw [Listing.bareAt?, Listing.at?_cons, Listing.find?_cons, if_pos rfl] at isDir
  cases node with
  | file | link => cases row <;> cases isDir
  | dir inside => cases leaf

/-- If the directories inside a directory are listed as they should be, so is the directory itself. -/
theorem mem_listed_of_below (faultless : (listedBelow directory listing []).2 = [])
    (below : ∀ row, row ∈ (listedBelow directory listing []).1 ↔
      row ≠ [] ∧ Reaches directory listing row) :
    (listed directory listing []).2 = [] ∧ ∀ row, row ∈ (listed directory listing []).1 ↔
      Reaches directory listing row ∧ directory.toString.utf8ByteSize ≤ pathLimit := by
  have asked : lists directory [] = (decide (directory.toString.utf8ByteSize ≤ pathLimit), []) := rfl
  by_cases short : directory.toString.utf8ByteSize ≤ pathLimit
  · rw [listed_of_lists (by simp [asked, short]), asked]
    refine ⟨faultless, fun row => ?_⟩
    rw [List.mem_cons, below]
    by_cases none : row = []
    · subst none
      have here : Reaches directory listing [] :=
        ⟨rfl, fun front isPrefix more => absurd (List.prefix_nil.1 isPrefix) more⟩
      simp [here, short]
    · simp [none, short]
  · rw [listed_of_not_lists (by simp [asked, short]), asked]
    exact ⟨rfl, fun row => by simp [short]⟩

theorem mem_listedBelow (proper : listing.isProper = true) :
    (listedBelow directory listing []).2 = [] ∧ ∀ row, row ∈ (listedBelow directory listing []).1 ↔
      row ≠ [] ∧ Reaches directory listing row := by
  induction listing using Listing.cons_induction generalizing directory with
  | empty =>
      refine ⟨rfl, fun row => ?_⟩
      cases row with
      | nil => simp [listedBelow]
      | cons first row =>
          refine iff_of_false (by simp [listedBelow]) ?_
          rintro ⟨-, isDir, -⟩
          cases isDir
  | cons name node rest ihInside ih =>
      obtain ⟨-, free, properRest, properInside⟩ := Listing.isProper_cons proper
      obtain ⟨faultless, others⟩ := @ih directory properRest
      -- Nothing is reached under the name of an entry through the entries behind it.
      have behind (row : List String) : ¬ Reaches directory rest (name :: row) := not_reaches_free free
      cases node with
      | file | link =>
          refine ⟨faultless, fun row => (others row).trans (and_congr_right fun more => ?_)⟩
          cases row with
          | nil => contradiction
          | cons first row =>
              by_cases same : name = first
              · subst same
                exact iff_of_false (behind row) (not_reaches_leaf rfl)
              · exact (reaches_behind same).symm
      | dir inside =>
          obtain ⟨faultlessBelow, below⟩ :=
            @ihInside inside rfl (directory.child name) (properInside inside rfl)
          obtain ⟨faultless', inner⟩ := mem_listed_of_below faultlessBelow below
          rw [Listing.cons, listedBelow_dir]
          dsimp only
          rw [faultless']
          refine ⟨faultless, fun row => ?_⟩
          cases row with
          | nil => simp [others]
          | cons first row =>
              rw [List.mem_append, others]
              by_cases same : name = first
              · subst same
                simp only [List.mem_map, List.cons.injEq, true_and, exists_eq_right, inner, behind,
                  and_false, or_false, ne_eq, reduceCtorEq, not_false_eq_true]
                exact reaches_under.symm
              · have beyond : Reaches directory (.cons name (.dir inside) rest) (first :: row) ↔
                    Reaches directory rest (first :: row) := reaches_behind same
                rw [← beyond]
                simp [same, Listing.cons]

/-- When no fault strikes, exactly the directories are listed on the way to which no path is too long. -/
theorem mem_listed (proper : listing.isProper = true) : row ∈ (listed directory listing []).1 ↔
    Reaches directory listing row ∧ directory.toString.utf8ByteSize ≤ pathLimit :=
  (mem_listed_of_below (mem_listedBelow proper).1 (mem_listedBelow proper).2).2 row

/-! ## Paths that are too long -/

/-- Names that lead to an entry fail if one of them is too long. -/
theorem follow_long {links : Nat} {here names : List String}
    (proper : ∀ name ∈ names, isEntryName name = true)
    (long : ∃ name ∈ names, nameLimit < name.utf8ByteSize)
    (there : disk.at? (here ++ names) = some node) :
    follow disk true links here names = .failed SystemError.nameTooLong := by
  induction names generalizing here with
  | nil => simp at long
  | cons name names ih =>
      obtain ⟨named, down⟩ := isEntryName_iff.1 (proper name List.mem_cons_self)
      rw [follow_cons true (ne_dot_of_isName named) down]
      split
      · rfl
      · next short =>
          have later : ∃ name ∈ names, nameLimit < name.utf8ByteSize := by
            obtain ⟨other, member, isLong⟩ := long
            rcases List.mem_cons.1 member with rfl | behind
            · contradiction
            · exact ⟨other, behind, isLong⟩
          have more : names ≠ [] := by
            rintro rfl
            simp at later
          rw [List.append_cons] at there
          obtain ⟨inner, above⟩ := Listing.exists_dir_of_at?_append there more
          rw [above]
          exact ih (fun other member => proper other (List.mem_cons_of_mem _ member)) later there

/-- A path below a directory that is too long fails because of that. -/
theorem stat_of_not_fits (root : lookup disk cwd true directory = .found place (.dir inside))
    (proper : ∀ name ∈ row, isEntryName name = true) (there : inside.at? row = some node)
    (more : row ≠ []) (long : ¬ Fits (directory.descend row)) :
    stat disk cwd (directory.descend row) = .error SystemError.nameTooLong := by
  have named : ∀ name ∈ row, isName name = true :=
    fun name member => (isEntryName_iff.1 (proper name member)).1
  have names : (directory.descend row).names = directory.names ++ row := Path.names_descend named
  have start : lookupStart cwd (directory.descend row) = lookupStart cwd directory := by
    rw [lookupStart, lookupStart, Path.isAbsolute, Path.isAbsolute, Path.anchor_descend named]
  have shortRoot := (fits_of_lookup root).names
  generalize directory.descend row = path at names start long ⊢
  have failed : lookup disk cwd true path = .failed SystemError.nameTooLong := by
    rw [lookup]
    split
    · rfl
    · next short =>
        have isLong : ∃ name ∈ row, nameLimit < name.utf8ByteSize := by
          apply Decidable.byContradiction
          intro none
          refine long ⟨Nat.le_of_not_lt short, fun name member => ?_⟩
          rw [names] at member
          rcases List.mem_append.1 member with inRoot | inRow
          · exact shortRoot name inRoot
          · exact Nat.le_of_not_lt fun tooLong => none ⟨name, inRow, tooLong⟩
        rw [lookup] at root
        split at root
        · contradiction
        · change follow disk true linkLimit (lookupStart cwd directory) directory.names = _ at root
          change follow disk true linkLimit (lookupStart cwd path) path.names = _
          obtain ⟨fewer, onwards⟩ := follow_append root
          rw [start, names, onwards true row more]
          rw [← Listing.at?_append_of_dir (at?_of_follow root)] at there
          exact follow_long proper isLong there
  rw [stat, failed]

/-! ## Links that have become files -/

theorem Meets.again {question question' : Path → Node → Prop}
    (meets : scanner.Meets directory listing opened question row) (opens : opened ⊆ opened')
    (still : ∀ node, listing.at? row = some node → question (directory.descend row) node →
      ∃ node', listing'.at? row = some node' ∧ question' (directory.descend row) node') :
    scanner.Meets directory listing' opened' question' row := by
  obtain ⟨node, there, holds⟩ := meets.there
  exact ⟨fun front inRow ne => opens (meets.isOpen front inRow ne), meets.hasEnding, still node there holds⟩

/-- A directory of a tree in which no fault strikes, and what has become of it when files were renewed. -/
structure Renews (disk disk' : Listing) (cwd : List String) (directory : Path) (place : List String)
    (inside inside' : Listing) : Prop where
  renewed : Renewed disk disk'
  root : lookup disk cwd true directory = .found place (.dir inside)
  root' : lookup disk' cwd true directory = .found place (.dir inside')
  skeleton : inside.skeleton.Alike inside'.skeleton
  proper : inside.isProper = true
  proper' : inside'.isProper = true

namespace Renews

variable (renews : Renews disk disk' cwd directory place inside inside')

include renews

/-- What stands below the directory is as before or has become a file. -/
theorem entry (there : inside.at? row = some node) (plain : node.isDir = false) :
    inside'.at? row = some node ∨ ∃ data, inside'.at? row = some (.file data) := by
  have below := renews.renewed.entry (place ++ row) node
  rw [Listing.at?_append_of_dir (at?_of_lookup renews.root),
    Listing.at?_append_of_dir (at?_of_lookup renews.root')] at below
  exact below there plain

/-- What stands below it afterwards stood there before, as a file or as a link. -/
theorem entry_before {node' : Node} (there : inside'.at? row = some node') (plain : node'.isDir = false) :
    ∃ node, inside.at? row = some node ∧ node.isDir = false := by
  have same := renews.skeleton row
  rw [Listing.bareAt?_mapped Node.isDir_bone, Listing.bareAt?_mapped Node.isDir_bone,
    (Listing.bareAt?_eq_some_iff plain).2 there] at same
  cases before : inside.bareAt? row with
  | none => simp [before] at same
  | some node =>
      rw [before, Option.map_some, Option.map_some, Option.some_inj] at same
      have isPlain : node.isDir = false := by
        rw [← Listing.isDir_mapped Node.isDir_bone, ← same, Listing.isDir_mapped Node.isDir_bone, plain]
      exact ⟨node, (Listing.bareAt?_eq_some_iff isPlain).1 before, isPlain⟩

/-- The same directories are listed. -/
theorem mem_listed_iff (row : List String) :
    row ∈ (listed directory inside' []).1 ↔ row ∈ (listed directory inside []).1 := by
  have dirs : inside'.bareAt? row = some (.dir .empty) ↔ inside.bareAt? row = some (.dir .empty) := by
    rw [← Listing.bareAt?_mapped_eq_dir_iff Node.isDir_bone, renews.skeleton,
      Listing.bareAt?_mapped_eq_dir_iff Node.isDir_bone]
  rw [mem_listed renews.proper, mem_listed renews.proper']
  exact and_congr_left fun _ => ⟨fun ⟨isDir, short⟩ => ⟨dirs.1 isDir, short⟩,
    fun ⟨isDir, short⟩ => ⟨dirs.2 isDir, short⟩⟩

/-- A link below the directory that the system follows, or that leads to nothing, leads to a file if
there is a file in its place afterwards or it leads to one then. -/
theorem stat_of_link {target : String} {node' : Node} (there : inside.at? row = some (.link target))
    (more : row ≠ [])
    (follows : ¬ IsRefused disk cwd (directory.descend row) (.link target))
    (there' : inside'.at? row = some node') (isFile : IsFileEntry disk' cwd (directory.descend row) node') :
    ∃ data, stat disk cwd (directory.descend row) = .ok (.file data) := by
  have proper : ∀ name ∈ row, isEntryName name = true := Listing.isEntryName_of_at? renews.proper there
  -- A path that is not too long leads to a file afterwards.
  have file (fits : Fits (directory.descend row)) :
      ∃ data, stat disk' cwd (directory.descend row) = .ok (.file data) := by
    cases node' with
    | dir inner => exact isFile.elim
    | link target' => exact isFile
    | file data =>
        have leads := leadsTo_descend renews.root' proper there' more fits
        rw [← Listing.at?_append_of_dir (at?_of_lookup renews.root')] at there'
        exact ⟨data, leads.stat_file there'⟩
  cases found : stat disk cwd (directory.descend row) with
  | ok node =>
      obtain ⟨end', looked⟩ := lookup_of_stat found
      have fits := fits_of_lookup looked
      cases node with
      | file data => exact ⟨data, rfl⟩
      | link other => exact absurd found (leadsTo_descend renews.root proper there more fits).stat_ne_link
      | dir inner =>
          obtain ⟨inner', looked', -⟩ := renews.renewed.lookup_dir looked
          obtain ⟨data, isFile'⟩ := file fits
          rw [stat_of_lookup looked'] at isFile'
          cases isFile'
  | error code =>
      have absent : code = SystemError.noEntry :=
        Decidable.byContradiction fun other => follows ⟨code, found, other⟩
      subst absent
      have fits : Fits (directory.descend row) := by
        by_contra long
        rw [stat_of_not_fits renews.root proper there more long] at found
        cases found
      obtain ⟨data, isFile'⟩ := file fits
      rw [renews.renewed.missing _ _ _ found (by decide)] at isFile'
      cases isFile'

/-- A class file that is found is found again. -/
theorem meets_file
    (meets : scanner.Meets directory inside (listed directory inside []).1 (IsFileEntry disk cwd) row) :
    scanner.Meets directory inside' (listed directory inside' []).1 (IsFileEntry disk' cwd) row := by
  refine meets.again (fun row => (renews.mem_listed_iff row).2) fun node there isFile => ?_
  rcases renews.entry there isFile.isDir_eq_false with still | ⟨data, there'⟩
  · refine ⟨node, still, ?_⟩
    cases node with
    | dir inner => exact isFile.elim
    | file data => trivial
    | link target =>
        obtain ⟨data, found⟩ := isFile
        exact renews.renewed.file _ _ _ found
  · exact ⟨_, there', trivial⟩

variable (follows : ∀ row, ¬ scanner.Meets directory inside (listed directory inside []).1
  (IsRefused disk cwd) row)

include follows

/-- A class file that is found afterwards was found before. -/
theorem meets_file_before
    (meets : scanner.Meets directory inside' (listed directory inside' []).1 (IsFileEntry disk' cwd) row) :
    scanner.Meets directory inside (listed directory inside []).1 (IsFileEntry disk cwd) row := by
  have refused := follows row
  refine meets.again (fun row => (renews.mem_listed_iff row).1) fun node' there' isFile => ?_
  obtain ⟨node, there, plain⟩ := renews.entry_before there' isFile.isDir_eq_false
  refine ⟨node, there, ?_⟩
  cases node with
  | dir inner => contradiction
  | file data => trivial
  | link target =>
      refine renews.stat_of_link there meets.ne_nil (fun isRefused => ?_) there' isFile
      exact refused (meets.again (fun row => (renews.mem_listed_iff row).1) fun _ _ _ =>
        ⟨_, there, isRefused⟩)

omit follows in
/-- A link that the system refuses to follow afterwards is one that it refused to follow before. -/
theorem isRefused_before {target target' : String} (there : inside.at? row = some (.link target))
    (more : row ≠ []) (refused : IsRefused disk' cwd (directory.descend row) (.link target')) :
    IsRefused disk cwd (directory.descend row) (.link target) := by
  obtain ⟨code, failed, other⟩ := refused
  have proper : ∀ name ∈ row, isEntryName name = true := Listing.isEntryName_of_at? renews.proper there
  cases found : stat disk cwd (directory.descend row) with
  | ok node =>
      obtain ⟨end', looked⟩ := lookup_of_stat found
      cases node with
      | file data =>
          obtain ⟨data', isFile⟩ := renews.renewed.file _ _ _ found
          rw [failed] at isFile
          cases isFile
      | link other =>
          have fits := fits_of_lookup looked
          exact absurd found (leadsTo_descend renews.root proper there more fits).stat_ne_link
      | dir inner =>
          obtain ⟨inner', looked', -⟩ := renews.renewed.lookup_dir looked
          rw [stat_of_lookup looked'] at failed
          cases failed
  | error code' =>
      refine ⟨code', found, ?_⟩
      rintro rfl
      rw [renews.renewed.missing _ _ _ found (by decide)] at failed
      cases failed
      exact other rfl

/-- The system refuses to follow no link afterwards if it did not refuse to before. -/
theorem not_meets_refused (row : List String) :
    ¬ scanner.Meets directory inside' (listed directory inside' []).1 (IsRefused disk' cwd) row := by
  intro meets
  refine follows row (meets.again (fun row => (renews.mem_listed_iff row).1)
    fun node' there' isRefused => ?_)
  cases node' with
  | file | dir => exact isRefused.elim
  | link target' =>
      obtain ⟨node, there, plain⟩ := renews.entry_before there' rfl
      refine ⟨node, there, ?_⟩
      cases node with
      | dir inner => contradiction
      | file data => rcases renews.entry there rfl with still | ⟨_, still⟩ <;> simp [there'] at still
      | link target => exact renews.isRefused_before there meets.ne_nil isRefused

end Renews

/-! ## Scans -/

section

variable {paths paths' : List Path} {rows rows' : List (List String)}
  (renews : Renews disk disk' cwd directory place inside inside')
  (found : scanner.Discovered disk cwd directory inside (listed directory inside []).1 0 paths rows)
  (found' : scanner.Discovered disk' cwd directory inside' (listed directory inside' []).1 0 paths' rows')

include renews found found'

/-- What was discovered below a directory is discovered again when files were renewed. -/
theorem Discovered.perm_rows_of_renews : rows'.Perm rows := by
  have follows : ∀ row, ¬ scanner.Meets directory inside (listed directory inside []).1
      (IsRefused disk cwd) row := fun row => found.unrefused row (Nat.zero_le _)
  rw [List.perm_ext_iff_of_nodup (found'.rows_nodup renews.proper') (found.rows_nodup renews.proper)]
  intro row
  rw [found.mem_iff, found'.mem_iff]
  exact and_congr_right fun _ => ⟨renews.meets_file_before follows, renews.meets_file⟩

theorem Discovered.perm_of_renews : paths'.Perm paths := by
  rw [found.paths_eq, found'.paths_eq]
  exact (found.perm_rows_of_renews renews found').map _

/-- It is discovered in the same order if the directories list their entries in the same order. -/
theorem Discovered.eq_of_renews (skeleton : inside'.skeleton = inside.skeleton) : paths' = paths := by
  have ordered : rows.Pairwise inside.skeleton.PostOrder := found.ordered.imp (·.mapped)
  have ordered' : rows'.Pairwise inside.skeleton.PostOrder := by
    rw [← skeleton]
    exact found'.ordered.imp (·.mapped)
  have proper : inside.skeleton.isProper = true := by
    rw [Listing.isProper_mapped Node.isDir_bone, renews.proper]
  rw [found.paths_eq, found'.paths_eq,
    (found.perm_rows_of_renews renews found').eq_of_pairwise ?_ ordered' ordered]
  intro one two _ _ before back
  exact absurd back (before.asymm proper)

end

variable {world world' after : World}

/-- A path that a scan found leads to a file, or it is too long. -/
theorem scan_steady (proper : world.disk.isProper = true) {root path : Path} {artifacts : Artifacts}
    (done : scanner.scan root world = .ok artifacts after) (member : path ∈ artifacts.paths) :
    Steady world.disk world.cwd path := by
  by_cases fits : Fits path
  · exact .inl (scan_stat proper done member fits)
  · obtain ⟨-, ⟨-, none⟩ | ⟨place, inside, rows, -, leads, found⟩⟩ := scan_ok proper done
    · simp [none] at member
    · rw [found.paths_eq, List.mem_map] at member
      obtain ⟨row, isRow, rfl⟩ := member
      have meets := ((found.mem_iff row).1 isRow).2
      obtain ⟨node, there, -⟩ := meets.there
      have properInside := Listing.isProper_of_at? proper (at?_of_lookup leads)
      exact .inr ⟨_, stat_of_not_fits leads (found.isEntryName properInside isRow) there meets.ne_nil fits,
        by decide⟩

/-- A scan that found class files finds the same ones when files were renewed, and in the same order if
the directories list their entries in the same order. -/
theorem scan_again (proper : world.disk.isProper = true) (proper' : world'.disk.isProper = true)
    (renewed : Renewed world.disk world'.disk) (cwd : world'.cwd = world.cwd)
    (faultless : world.faults = []) (faultless' : world'.faults = []) {root : Path}
    {artifacts : Artifacts} (done : scanner.scan root world = .ok artifacts after)
    (some : artifacts.paths ≠ []) :
    ∃ artifacts' after', scanner.scan root world' = .ok artifacts' after' ∧
      artifacts'.paths.Perm artifacts.paths ∧
      (world'.disk.skeleton = world.disk.skeleton → artifacts'.paths = artifacts.paths) := by
  obtain ⟨-, ⟨-, none⟩ | ⟨place, inside, rows, answered, leads, found⟩⟩ := scan_ok proper done
  · exact absurd none some
  · obtain ⟨inside', leads', skeleton⟩ := renewed.lookup_dir leads
    have renews : Renews world.disk world'.disk world.cwd root place inside inside' :=
      ⟨renewed, leads, leads', skeleton, Listing.isProper_of_at? proper (at?_of_lookup leads),
        Listing.isProper_of_at? proper' (at?_of_lookup leads')⟩
    have answered' : isDir world'.disk world.cwd root = .ok true :=
      isDir_iff.2 ⟨(isDir_iff.1 answered).1, inside', stat_of_lookup leads'⟩
    rw [faultless] at found
    have refuses := renews.not_meets_refused fun row => found.unrefused row (Nat.zero_le _)
    rw [← cwd] at answered' leads' refuses
    rw [← faultless'] at refuses
    obtain ⟨artifacts', after', done'⟩ :=
      (scan_returns_iff proper' root).2 (.inr ⟨place, inside', answered', leads', refuses⟩)
    refine ⟨artifacts', after', done', ?_⟩
    obtain ⟨-, ⟨missing, -⟩ | ⟨place', inner, rows', -, leads'', found'⟩⟩ := scan_ok proper' done'
    · rw [answered'] at missing
      cases missing
    · rw [leads'] at leads''
      cases leads''
      rw [faultless', cwd] at found'
      refine ⟨found.perm_of_renews renews found', fun same => found.eq_of_renews renews found' ?_⟩
      have within {disk inside : Listing} (there : disk.at? place = .some (.dir inside)) :
          disk.skeleton.at? place = .some (.dir inside.skeleton) := by
        rw [Listing.at?_mapped Node.isDir_bone, there]
        rfl
      have views := within (at?_of_lookup leads')
      rw [same, within (at?_of_lookup leads)] at views
      exact (Node.dir.inj (Option.some.inj views)).symm

end Scanner

end Enhance
