import Enhance.Proofs.Lawful
import Enhance.Proofs.Scan.Rows

/-!
# What a scan discovers

A scan leaves the files alone.  In a proper tree a scan that returns has found exactly the rows of
names that lead to files with the ending through directories that are listed, each once, and those
below a directory before those in it.  It returns exactly if no such row leads to a link that the
system refuses to follow.  Both are inductions on the tree, by way of what is known of a search below a
directory (`Scanner.Discovered`).
-/

namespace Enhance

namespace Scanner

open Program Disk

variable {scanner : Scanner} {directory : Path} {world after : World} {listing : Listing}

/-! ## What a scan inherits from its steps -/

section

variable {holds : (α : Type) → Program α → Prop} (lawful : Lawful holds)

include lawful

theorem filesIn_lawful (scanner : Scanner) (directory : Path) (listing : Listing) :
    holds (List Path) (scanner.filesIn directory listing) := by
  induction listing with
  | empty => exact lawful.pure _
  | file name data rest ih => exact lawful.bind ih fun more => lawful.pure _
  | link name target rest ih =>
      rw [filesIn]
      split
      · exact lawful.bind (lawful.askSystem _) fun found => lawful.bind ih fun more =>
          lawful.pure _
      · exact lawful.bind (lawful.pure _) fun found => lawful.bind ih fun more => lawful.pure _
  | dir name inside rest _ ih => exact ih

theorem openDirectory_lawful (directory : Path) : holds Unit (openDirectory directory) := by
  apply lawful.bind (lawful.strike _ _)
  intro _
  split
  · exact lawful.fail _
  · exact lawful.pure _

theorem visiting_lawful {search : Program (List Path)} (searches : holds (List Path) search) :
    holds (List Path) (scanner.visiting directory search) := by
  apply lawful.bind (lawful.catchSystem (openDirectory_lawful lawful directory))
  intro opened
  cases opened with
  | ok => exact searches
  | error error => exact lawful.bind (lawful.log nofun) fun _ => lawful.pure _

theorem below_lawful (scanner : Scanner) (directory : Path) (listing : Listing) :
    holds (List Path) (scanner.below directory listing) := by
  induction listing generalizing directory with
  | empty => exact lawful.pure _
  | file name data rest ih | link name target rest ih => exact ih directory
  | dir name inside rest ihInside ih =>
      refine lawful.bind (visiting_lawful lawful ?_) fun found => lawful.bind (ih directory)
        fun more => lawful.pure _
      exact lawful.bind (ihInside _) fun nested => lawful.bind (filesIn_lawful lawful _ _ _)
        fun direct => lawful.pure _

theorem walk_lawful (scanner : Scanner) (directory : Path) (listing : Listing) :
    holds (List Path) (scanner.walk directory listing) :=
  visiting_lawful lawful (lawful.bind (below_lawful lawful _ _ _) fun _ =>
    lawful.bind (filesIn_lawful lawful _ _ _) fun _ => lawful.pure _)

theorem listing?_lawful (root : Path) : holds (Option Listing) (listing? root) := by
  apply lawful.bind (lawful.askSystem _)
  intro isDir
  split
  · apply lawful.look
    · intro world
      split
      · exact lawful.pure _
      · exact lawful.pure _
    · intro one two sameDisk sameCwd
      rw [sameDisk, sameCwd]
  · exact lawful.pure _

theorem scan_lawful (scanner : Scanner) (root : Path) : holds Artifacts (scanner.scan root) := by
  refine lawful.bind (listing?_lawful lawful root) fun found => ?_
  cases found with
  | none => exact lawful.bind (lawful.log nofun) fun _ => lawful.pure _
  | some inside =>
      exact lawful.bind (walk_lawful lawful _ _ _) fun paths => lawful.bind (lawful.log nofun) fun _ =>
        lawful.pure _

end

theorem below_quiet (scanner : Scanner) (directory : Path) (listing : Listing) :
    (scanner.below directory listing).IsQuiet :=
  below_lawful quiet_lawful scanner directory listing

theorem walk_quiet (scanner : Scanner) (directory : Path) (listing : Listing) :
    (scanner.walk directory listing).IsQuiet :=
  walk_lawful quiet_lawful scanner directory listing

/-- A scan leaves the files alone. -/
theorem scan_quiet (scanner : Scanner) (root : Path) : (scanner.scan root).IsQuiet :=
  scan_lawful quiet_lawful scanner root

/-! ## What is done if a directory can be listed, or cannot -/

/-- A directory that the system lets be listed is searched. -/
theorem visiting_of_lists {search : Program (List Path)}
    (opens : (lists directory world.faults).1 = true) :
    scanner.visiting directory search world =
      search { world with faults := (lists directory world.faults).2 } := by
  simp only [lists, Bool.and_eq_true, Option.isNone_iff_eq_none, decide_eq_true_eq] at opens
  have opened : openDirectory directory world =
      .ok () { world with faults := (lists directory world.faults).2 } := by
    rw [openDirectory, bind_ok]
    refine ⟨(), _, strike_ok.2 ⟨opens.1, rfl⟩, ?_⟩
    rw [if_neg (Nat.not_lt.2 opens.2)]
    rfl
  rw [visiting, bind_eq, catchSystem_value.2 opened]

/-- A directory that the system does not let be listed is passed over. -/
theorem visiting_of_not_lists {search : Program (List Path)}
    (shut : (lists directory world.faults).1 = false) :
    ∃ after, scanner.visiting directory search world = .ok [] after ∧
      after.faults = (lists directory world.faults).2 := by
  have refused : ∃ error, openDirectory directory world =
      .error (.system error) { world with faults := (lists directory world.faults).2 } := by
    simp only [openDirectory, bind_error]
    cases struck : (Fault.ask .listDirectory directory.name world.faults).1 with
    | some code => exact ⟨{ code }, .inl (strike_error.2 ⟨code, struck, rfl, rfl⟩)⟩
    | none =>
        have long : pathLimit < directory.toString.utf8ByteSize := by
          simpa [lists, struck] using shut
        refine ⟨errorAt SystemError.nameTooLong directory, .inr
          ⟨(), _, strike_ok.2 ⟨struck, rfl⟩, ?_⟩⟩
        rw [if_pos long]
        exact fail_error.2 ⟨rfl, rfl⟩
  obtain ⟨error, refused⟩ := refused
  rw [visiting, bind_eq, catchSystem_caught.2 refused]
  exact ⟨_, rfl, rfl⟩

/-! ## The files of a single directory -/

theorem linkLeadsToFile_ok {name : String} {found : Bool}
    (done : linkLeadsToFile directory name world = .ok found after) :
    (found = true ↔ ∃ data, stat world.disk world.cwd (directory.child name) = .ok (.file data)) ∧
      (∀ code, stat world.disk world.cwd (directory.child name) = .error code →
        code = SystemError.noEntry) ∧ world = after := by
  obtain ⟨answered, rfl⟩ := askSystem_ok.1 done
  refine ⟨?_, ?_, rfl⟩
  · split at answered
    · next node there =>
        cases answered
        cases node <;> simp [there, Node.isFile]
    · next code there =>
        rw [there]
        split at answered
        · cases answered
          simp
        · contradiction
  · intro code there
    rw [there] at answered
    dsimp only at answered
    split at answered
    · next absent => exact absent
    · contradiction

theorem linkLeadsToFile_error {name : String} {failure : Failure}
    (failed : linkLeadsToFile directory name world = .error failure after) :
    ∃ code, stat world.disk world.cwd (directory.child name) = .error code ∧
      code ≠ SystemError.noEntry := by
  obtain ⟨error, answered, -, -⟩ := askSystem_error.1 failed
  split at answered
  · contradiction
  · next code there =>
      split at answered
      · contradiction
      · next other => exact ⟨code, there, other⟩

/-- A search of a directory picks the files in it, in the order in which they are listed, and the
system refuses to follow none of the links that have the ending. -/
structure Picks (scanner : Scanner) (disk : Listing) (cwd : List String) (directory : Path)
    (listing : Listing) (names : List String) : Prop where
  sublist : names.Sublist listing.names
  mem_iff : ∀ name, name ∈ names ↔
    scanner.Offers directory listing (IsFileEntry disk cwd) name
  unrefused : ∀ name, ¬ scanner.Offers directory listing (IsRefused disk cwd) name

/-- A first entry is picked, or is not, besides those picked among the entries after it. -/
theorem Picks.front {disk rest : Listing} {cwd names : List String} {name : String} {node : Node}
    (picks : scanner.Picks disk cwd directory rest names) (free : rest.find? name = none)
    (found : Bool) (isFile : found = true ↔
      scanner.matchesName name = true ∧ IsFileEntry disk cwd (directory.child name) node)
    (follows : scanner.matchesName name = true → ¬ IsRefused disk cwd (directory.child name) node) :
    scanner.Picks disk cwd directory (.cons name node rest)
      (if found then name :: names else names) := by
  have notPicked : name ∉ names := by
    intro member
    exact ((picks.mem_iff name).1 member).ne_of_free free rfl
  refine ⟨?_, ?_, ?_⟩
  · rw [Listing.names_cons]
    cases found with
    | false => exact List.Sublist.cons _ picks.sublist
    | true => exact List.Sublist.cons_cons _ picks.sublist
  · intro other
    by_cases same : other = name
    · subst same
      rw [offers_first, ← isFile]
      cases found <;> simp [notPicked]
    · rw [offers_behind same, ← picks.mem_iff]
      cases found <;> simp [same]
  · intro other offers
    by_cases same : other = name
    · subst same
      obtain ⟨hasEnding, refused⟩ := offers_first.1 offers
      exact follows hasEnding refused
    · exact picks.unrefused other ((offers_behind same).1 offers)

theorem filesIn_ok (proper : listing.isProper = true) {paths : List Path}
    (done : scanner.filesIn directory listing world = .ok paths after) :
    world = after ∧ ∃ names, paths = names.map directory.child ∧
      scanner.Picks world.disk world.cwd directory listing names := by
  induction listing using Listing.cons_induction generalizing world paths after with
  | empty =>
      obtain ⟨rfl, rfl⟩ := pure_ok.1 done
      refine ⟨rfl, [], rfl, List.nil_sublist _, ?_, ?_⟩
      · intro name
        refine iff_of_false (by simp) ?_
        rintro ⟨-, node, there, -⟩
        contradiction
      · rintro name ⟨-, node, there, -⟩
        contradiction
  | cons name node rest _ ih =>
      obtain ⟨-, free, properRest, -⟩ := Listing.isProper_cons proper
      cases node with
      | file data =>
          simp only [Listing.cons, filesIn, bind_ok, pure_ok] at done
          obtain ⟨more, middle, doneRest, rfl, rfl⟩ := done
          obtain ⟨rfl, names, rfl, picks⟩ := ih properRest doneRest
          refine ⟨rfl, _, ?_, picks.front free (scanner.matchesName name) ?_ ?_⟩
          · split <;> rfl
          · simp [IsFileEntry]
          · simp [IsRefused]
      | link target =>
          rw [Listing.cons, filesIn] at done
          split at done
          · next hasEnding =>
              simp only [bind_ok, pure_ok] at done
              obtain ⟨found, first, asked, more, middle, doneRest, rfl, rfl⟩ := done
              obtain ⟨isFile, follows, rfl⟩ := linkLeadsToFile_ok asked
              obtain ⟨rfl, names, rfl, picks⟩ := ih properRest doneRest
              refine ⟨rfl, _, ?_, picks.front free found ?_ ?_⟩
              · split <;> rfl
              · simpa [hasEnding, IsFileEntry] using isFile
              · rintro - ⟨code, there, other⟩
                exact other (follows code there)
          · next hasEnding =>
              simp only [bind_ok, pure_ok] at done
              obtain ⟨_, _, ⟨rfl, rfl⟩, more, middle, doneRest, rfl, rfl⟩ := done
              obtain ⟨rfl, names, rfl, picks⟩ := ih properRest doneRest
              refine ⟨rfl, _, rfl, picks.front free false ?_ ?_⟩
              · simp [hasEnding]
              · simp [hasEnding]
      | dir inside =>
          obtain ⟨rfl, names, rfl, picks⟩ := ih properRest done
          refine ⟨rfl, _, rfl, picks.front free false ?_ ?_⟩
          · simp [IsFileEntry]
          · simp [IsRefused]

/-- A search of the files of a directory fails only because of a link in it. -/
theorem filesIn_error (proper : listing.isProper = true) {failure : Failure}
    (failed : scanner.filesIn directory listing world = .error failure after) :
    ∃ name, scanner.Offers directory listing (IsRefused world.disk world.cwd) name := by
  induction listing using Listing.cons_induction generalizing world after with
  | empty => exact (pure_error.1 failed).elim
  | cons name node rest _ ih =>
      obtain ⟨-, free, properRest, -⟩ := Listing.isProper_cons proper
      cases node with
      | file data =>
          simp only [Listing.cons, filesIn, bind_error, pure_error, and_false, exists_false,
            or_false] at failed
          obtain ⟨other, offers⟩ := ih properRest failed
          exact ⟨other, offers.behind free⟩
      | link target =>
          rw [Listing.cons, filesIn] at failed
          split at failed
          · next hasEnding =>
              simp only [bind_error, pure_error, and_false, exists_false, or_false] at failed
              rcases failed with refused | ⟨found, first, asked, failedRest⟩
              · exact ⟨name, offers_first.2 ⟨hasEnding, linkLeadsToFile_error refused⟩⟩
              · obtain ⟨-, -, rfl⟩ := linkLeadsToFile_ok asked
                obtain ⟨other, offers⟩ := ih properRest failedRest
                exact ⟨other, offers.behind free⟩
          · simp only [bind_error, pure_error, pure_ok, and_false, exists_false, or_false,
              false_or] at failed
            obtain ⟨_, _, ⟨-, rfl⟩, failedRest⟩ := failed
            obtain ⟨other, offers⟩ := ih properRest failedRest
            exact ⟨other, offers.behind free⟩
      | dir inside =>
          obtain ⟨other, offers⟩ := ih properRest failed
          exact ⟨other, offers.behind free⟩

/-! ## Whole directories -/

/-- A search found the rows of at least so many names that lead to files, in post-order, and the
system refuses to follow none of the links on such rows. -/
structure Discovered (scanner : Scanner) (disk : Listing) (cwd : List String) (directory : Path)
    (listing : Listing) (opened : List (List String)) (least : Nat) (paths : List Path)
    (rows : List (List String)) : Prop where
  paths_eq : paths = rows.map directory.descend
  mem_iff : ∀ row, row ∈ rows ↔
    least ≤ row.length ∧ scanner.Meets directory listing opened (IsFileEntry disk cwd) row
  unrefused : ∀ row, least ≤ row.length →
    ¬ scanner.Meets directory listing opened (IsRefused disk cwd) row
  ordered : rows.Pairwise listing.PostOrder

namespace Discovered

variable {disk rest : Listing} {cwd : List String} {opened inner others : List (List String)}
  {name : String} {node : Node} {least : Nat} {paths more : List Path} {rows found : List (List String)}

/-- Where no row of names meets anything, nothing is found. -/
theorem nothing (never : ∀ question row, ¬ scanner.Meets directory listing opened question row) :
    scanner.Discovered disk cwd directory listing opened least [] [] := by
  refine ⟨rfl, ?_, fun row _ => never _ row, .nil⟩
  intro row
  simp [never]

/-- What is found in the directories inside a directory comes before the files in it. -/
theorem append_picks {names : List String}
    (deep : scanner.Discovered disk cwd directory listing ([] :: opened) 2 paths rows)
    (picks : scanner.Picks disk cwd directory listing names) :
    scanner.Discovered disk cwd directory listing ([] :: opened) 0
      (paths ++ names.map directory.child) (rows ++ names.map fun name => [name]) := by
  refine ⟨?_, ?_, ?_, ?_⟩
  · rw [deep.paths_eq, List.map_append, List.map_map]
    rfl
  · intro row
    rw [List.mem_append, deep.mem_iff]
    match row with
    | [] => simp [not_meets_nil]
    | [name] => simp [meets_singleton, picks.mem_iff]
    | first :: second :: row => simp
  · intro row _ meets
    match row with
    | [] => exact not_meets_nil meets
    | [name] => exact picks.unrefused name (meets_singleton.1 meets)
    | first :: second :: row => exact deep.unrefused _ (by simp) meets
  · refine List.pairwise_append.2 ⟨deep.ordered, ?_, ?_⟩
    · refine List.pairwise_map.2 (List.pairwise_iff_forall_sublist.2 ?_)
      intro one two inNames
      exact .beside (inNames.trans picks.sublist)
    · intro row member single isSingle
      obtain ⟨name, -, rfl⟩ := List.mem_map.1 isSingle
      match row, ((deep.mem_iff row).1 member).1 with
      | first :: second :: row, _ => exact .nested (by simp)

/-- What is found behind an entry that is no directory. -/
theorem behind (found : scanner.Discovered disk cwd directory rest ([] :: opened) 2 paths rows)
    (free : rest.find? name = none) (plain : node.isDir = false) :
    scanner.Discovered disk cwd directory (.cons name node rest) ([] :: opened) 2 paths rows := by
  have same : ∀ question row, 2 ≤ row.length →
      (scanner.Meets directory (.cons name node rest) ([] :: opened) question row ↔
        scanner.Meets directory rest ([] :: opened) question row) := by
    intro question row long
    match row, long with
    | first :: second :: row, _ =>
        by_cases equal : first = name
        · subst equal
          exact iff_of_false (not_meets_through plain (by simp)) fun meets =>
            meets.ne_of_free free rfl
        · exact meets_behind [] equal
  refine ⟨found.paths_eq, ?_, ?_, found.ordered.imp fun before => before.behind free node⟩
  · intro row
    rw [found.mem_iff]
    exact and_congr_right fun long => (same _ row long).symm
  · intro row long meets
    exact found.unrefused row long ((same _ row long).1 meets)

/-- What is found inside a first directory comes before what is found behind it. -/
theorem under {inside : Listing}
    (here : scanner.Discovered disk cwd (directory.child name) inside inner 0 paths rows)
    (after : scanner.Discovered disk cwd directory rest ([] :: others) 2 more found)
    (free : rest.find? name = none) (closed : ∀ row, name :: row ∉ others) :
    scanner.Discovered disk cwd directory (.cons name (.dir inside) rest)
      ([] :: (inner.map (name :: ·) ++ others)) 2 (paths ++ more)
      (rows.map (name :: ·) ++ found) := by
  have notFound : ∀ row, name :: row ∉ found := by
    intro row member
    exact ((after.mem_iff _).1 member).2.ne_of_free free rfl
  refine ⟨?_, ?_, ?_, ?_⟩
  · rw [here.paths_eq, after.paths_eq, List.map_append, List.map_map]
    rfl
  · intro row
    cases row with
    | nil => simp [not_meets_nil, after.mem_iff]
    | cons first row =>
        by_cases same : first = name
        · subst same
          have long : row ≠ [] → 2 ≤ (first :: row).length := by
            cases row <;> simp
          rw [meets_under (by simp [IsFileEntry]) closed]
          simp only [List.mem_append, List.mem_map, List.cons.injEq, true_and, exists_eq_right,
            notFound, or_false, here.mem_iff, Nat.zero_le]
          exact ⟨fun meets => ⟨long meets.ne_nil, meets⟩, And.right⟩
        · rw [meets_behind _ same, ← after.mem_iff]
          simp [Ne.symm same]
  · intro row long meets
    cases row with
    | nil => exact not_meets_nil meets
    | cons first row =>
        by_cases same : first = name
        · subst same
          exact here.unrefused row (Nat.zero_le _) ((meets_under (by simp [IsRefused]) closed).1 meets)
        · exact after.unrefused _ long ((meets_behind _ same).1 meets)
  · refine List.pairwise_append.2 ⟨?_, ?_, ?_⟩
    · refine List.pairwise_map.2 (here.ordered.imp fun before => .within ?_ before)
      simp
    · exact after.ordered.imp fun before => before.behind free _
    · intro row member other isFound
      obtain ⟨below, isRow, rfl⟩ := List.mem_map.1 member
      have more : below ≠ [] := ((here.mem_iff _).1 isRow).2.ne_nil
      obtain ⟨long, -, -, node, there, -⟩ := (after.mem_iff other).1 isFound
      match other, long with
      | first :: second :: names, _ =>
          rw [Listing.at?_cons] at there
          cases first? : rest.find? first with
          | none => simp [first?] at there
          | some _ => exact .apart more (by simp) (Listing.listsBefore_first first? name _)

end Discovered

/-- What is known of a search of a directory whose subdirectories are searched as they should be. -/
theorem walk_ok_of_below (proper : listing.isProper = true)
    (nested : ∀ {world after : World} {paths : List Path},
      scanner.below directory listing world = .ok paths after →
        after.faults = (listedBelow directory listing world.faults).2 ∧
          ∃ rows, scanner.Discovered world.disk world.cwd directory listing
            ([] :: (listedBelow directory listing world.faults).1) 2 paths rows)
    {paths : List Path} (done : scanner.walk directory listing world = .ok paths after) :
    after.faults = (listed directory listing world.faults).2 ∧
      ∃ rows, scanner.Discovered world.disk world.cwd directory listing
        (listed directory listing world.faults).1 0 paths rows := by
  rw [walk] at done
  cases opens : (lists directory world.faults).1 with
  | false =>
      obtain ⟨passed, same, faults⟩ := visiting_of_not_lists opens
      rw [same] at done
      cases done
      rw [listed_of_not_lists opens]
      exact ⟨faults, [], .nothing fun _ _ => not_meets_unopened⟩
  | true =>
      rw [visiting_of_lists opens] at done
      simp only [bind_ok, pure_ok] at done
      obtain ⟨deep, middle, doneBelow, direct, last, doneHere, rfl, rfl⟩ := done
      have quiet := (below_quiet scanner directory listing).of_ok doneBelow
      obtain ⟨faults, rows, found⟩ := nested doneBelow
      obtain ⟨rfl, names, rfl, picks⟩ := filesIn_ok proper doneHere
      rw [quiet.disk, quiet.cwd] at picks
      rw [listed_of_lists opens]
      exact ⟨faults, _, found.append_picks picks⟩

theorem below_ok (proper : listing.isProper = true) {paths : List Path}
    (done : scanner.below directory listing world = .ok paths after) :
    after.faults = (listedBelow directory listing world.faults).2 ∧
      ∃ rows, scanner.Discovered world.disk world.cwd directory listing
        ([] :: (listedBelow directory listing world.faults).1) 2 paths rows := by
  induction listing using Listing.cons_induction generalizing directory world paths after with
  | empty =>
      obtain ⟨rfl, rfl⟩ := pure_ok.1 done
      refine ⟨rfl, [], .nothing ?_⟩
      rintro question (_ | ⟨name, row⟩) meets
      · exact not_meets_nil meets
      · obtain ⟨node, there, -⟩ := meets.there
        simp [Listing.at?_cons, Listing.find?] at there
  | cons name node rest ihInside ih =>
      obtain ⟨-, free, properRest, properInside⟩ := Listing.isProper_cons proper
      cases node with
      | file | link =>
          obtain ⟨faults, rows, found⟩ := ih properRest done
          exact ⟨faults, rows, found.behind free rfl⟩
      | dir inside =>
          obtain ⟨paths, middle, doneHere, done⟩ := bind_ok.1 done
          obtain ⟨more, last, doneRest, done⟩ := bind_ok.1 done
          obtain ⟨rfl, rfl⟩ := pure_ok.1 done
          have quiet := (walk_quiet scanner (directory.child name) inside).of_ok doneHere
          obtain ⟨faultsHere, rows, here⟩ := walk_ok_of_below (properInside inside rfl)
            (ihInside inside rfl (properInside inside rfl)) doneHere
          obtain ⟨faults, others, found⟩ := ih properRest doneRest
          rw [quiet.disk, quiet.cwd, faultsHere] at found
          rw [faultsHere] at faults
          rw [Listing.cons, listedBelow_dir]
          exact ⟨faults, _, here.under found free fun row => ne_of_mem_listedBelow free⟩

/-- The files below a directory are found through the directories that are listed. -/
theorem walk_ok (proper : listing.isProper = true) {paths : List Path}
    (done : scanner.walk directory listing world = .ok paths after) :
    after.faults = (listed directory listing world.faults).2 ∧
      ∃ rows, scanner.Discovered world.disk world.cwd directory listing
        (listed directory listing world.faults).1 0 paths rows :=
  walk_ok_of_below proper (below_ok proper) done

/-! ## Searches that fail -/

/-- A search of a directory fails only where the searches of the subdirectories fail or because of a
link in the directory. -/
theorem walk_error_of_below (proper : listing.isProper = true)
    (nested : ∀ {world after : World} {failure : Failure},
      scanner.below directory listing world = .error failure after →
        ∃ row, scanner.Meets directory listing
          ([] :: (listedBelow directory listing world.faults).1)
          (IsRefused world.disk world.cwd) row)
    {failure : Failure} (failed : scanner.walk directory listing world = .error failure after) :
    ∃ row, scanner.Meets directory listing (listed directory listing world.faults).1
      (IsRefused world.disk world.cwd) row := by
  rw [walk] at failed
  cases opens : (lists directory world.faults).1 with
  | false =>
      obtain ⟨passed, same, -⟩ := visiting_of_not_lists opens
      rw [same] at failed
      contradiction
  | true =>
      rw [visiting_of_lists opens] at failed
      simp only [bind_error, pure_error, and_false, exists_false, or_false] at failed
      rw [listed_of_lists opens]
      rcases failed with failedBelow | ⟨deep, middle, doneBelow, failedHere⟩
      · exact nested failedBelow
      · have quiet := (below_quiet scanner directory listing).of_ok doneBelow
        obtain ⟨name, offers⟩ := filesIn_error proper failedHere
        rw [quiet.disk, quiet.cwd] at offers
        exact ⟨[name], meets_singleton.2 offers⟩

theorem below_error (proper : listing.isProper = true) {failure : Failure}
    (failed : scanner.below directory listing world = .error failure after) :
    ∃ row, scanner.Meets directory listing ([] :: (listedBelow directory listing world.faults).1)
      (IsRefused world.disk world.cwd) row := by
  induction listing using Listing.cons_induction generalizing directory world after failure with
  | empty => exact (pure_error.1 failed).elim
  | cons name node rest ihInside ih =>
      obtain ⟨-, free, properRest, properInside⟩ := Listing.isProper_cons proper
      have behind : ∀ {world : World} (inner : List (List String)),
          (∃ row, scanner.Meets directory rest
            ([] :: (listedBelow directory rest world.faults).1)
            (IsRefused world.disk world.cwd) row) →
          ∃ row, scanner.Meets directory (.cons name node rest)
            ([] :: (inner.map (name :: ·) ++ (listedBelow directory rest world.faults).1))
            (IsRefused world.disk world.cwd) row := by
        rintro world inner ⟨row, meets⟩
        cases row with
        | nil => exact absurd meets not_meets_nil
        | cons first row =>
            exact ⟨first :: row, (meets_behind inner (meets.ne_of_free free)).2 meets⟩
      cases node with
      | file | link => exact behind [] (ih properRest failed)
      | dir inside =>
          rw [Listing.cons, listedBelow_dir]
          rcases bind_error.1 failed with failedHere | ⟨paths, middle, doneHere, failed⟩
          · obtain ⟨row, meets⟩ := walk_error_of_below (properInside inside rfl)
              (ihInside inside rfl (properInside inside rfl)) failedHere
            exact ⟨name :: row, (meets_under (by simp [IsRefused])
              fun row => ne_of_mem_listedBelow free).2 meets⟩
          · simp only [bind_error, pure_error, and_false, exists_false, or_false] at failed
            have quiet := (walk_quiet scanner (directory.child name) inside).of_ok doneHere
            obtain ⟨faults, -⟩ := walk_ok (properInside inside rfl) doneHere
            have found := behind (listed (directory.child name) inside world.faults).1
              (ih properRest failed)
            rwa [quiet.disk, quiet.cwd, faults] at found

/-- The search of a directory fails only because of a link that the system refuses to follow. -/
theorem walk_error (proper : listing.isProper = true) {failure : Failure}
    (failed : scanner.walk directory listing world = .error failure after) :
    ∃ row, scanner.Meets directory listing (listed directory listing world.faults).1
      (IsRefused world.disk world.cwd) row :=
  walk_error_of_below proper (below_error proper) failed

/-! ## Scans -/

/-- What is inside the root of a scan. -/
theorem listing?_ok {root : Path} {found : Option Listing}
    (done : listing? root world = .ok found after) :
    world = after ∧ isDir world.disk world.cwd root = .ok found.isSome ∧
      ∀ inside, found = some inside →
        ∃ place, lookup world.disk world.cwd true root = .found place (.dir inside) := by
  obtain ⟨answer, middle, asked, done⟩ := bind_ok.1 done
  obtain ⟨answered, rfl⟩ := askSystem_ok.1 asked
  cases answer with
  | false =>
      obtain ⟨rfl, rfl⟩ := pure_ok.1 done
      exact ⟨rfl, answered, by simp⟩
  | true =>
      obtain ⟨-, inside, there⟩ := isDir_iff.1 answered
      rw [if_pos rfl, get_bind, there] at done
      obtain ⟨rfl, rfl⟩ := pure_ok.1 done
      refine ⟨rfl, answered, ?_⟩
      rintro _ ⟨⟩
      exact lookup_of_stat there

/-- What a scan finds: nothing, or what is discovered below the directory that its root leads to. -/
theorem scan_ok (proper : world.disk.isProper = true) {root : Path} {artifacts : Artifacts}
    (done : scanner.scan root world = .ok artifacts after) :
    artifacts.root = root ∧
      ((isDir world.disk world.cwd root = .ok false ∧ artifacts.paths = []) ∨
        ∃ place inside rows, isDir world.disk world.cwd root = .ok true ∧
          lookup world.disk world.cwd true root = .found place (.dir inside) ∧
          scanner.Discovered world.disk world.cwd root inside (listed root inside world.faults).1 0
            artifacts.paths rows) := by
  obtain ⟨found, first, looked, done⟩ := bind_ok.1 done
  obtain ⟨rfl, answered, leads⟩ := listing?_ok looked
  cases found with
  | none =>
      simp only [bind_ok, pure_ok] at done
      obtain ⟨_, _, _, rfl, _⟩ := done
      exact ⟨rfl, .inl ⟨answered, rfl⟩⟩
  | some inside =>
      simp only [bind_ok, pure_ok] at done
      obtain ⟨paths, middle, walked, _, _, _, rfl, _⟩ := done
      obtain ⟨place, leads⟩ := leads inside rfl
      obtain ⟨-, rows, found⟩ := walk_ok (Listing.isProper_of_at? proper (at?_of_lookup leads)) walked
      exact ⟨rfl, .inr ⟨place, inside, rows, answered, leads, found⟩⟩

/-- A scan of a directory returns if its search does. -/
theorem scan_returns_of_walk {root : Path} {place : List String} {inside : Listing}
    (answered : isDir world.disk world.cwd root = .ok true)
    (leads : lookup world.disk world.cwd true root = .found place (.dir inside))
    (walked : ∃ paths after, scanner.walk root inside world = .ok paths after) :
    ∃ artifacts after, scanner.scan root world = .ok artifacts after := by
  obtain ⟨paths, middle, walked⟩ := walked
  have there : stat world.disk world.cwd root = .ok (.dir inside) := by
    rw [stat, leads]
  have looked : listing? root world = .ok (some inside) world := by
    refine bind_ok.2 ⟨true, world, askSystem_ok.2 ⟨answered, rfl⟩, ?_⟩
    rw [if_pos rfl, get_bind, there]
    exact pure_ok.2 ⟨rfl, rfl⟩
  exact ⟨⟨root, paths⟩, _, bind_ok.2 ⟨some inside, world, looked, bind_ok.2 ⟨paths, middle, walked,
    bind_ok.2 ⟨(), _, modify_ok.2 rfl, pure_ok.2 ⟨rfl, rfl⟩⟩⟩⟩⟩

theorem scan_returns_of_missing {root : Path}
    (answered : isDir world.disk world.cwd root = .ok false) :
    ∃ artifacts after, scanner.scan root world = .ok artifacts after := by
  have looked : listing? root world = .ok none world := by
    refine bind_ok.2 ⟨false, world, askSystem_ok.2 ⟨answered, rfl⟩, ?_⟩
    exact pure_ok.2 ⟨rfl, rfl⟩
  exact ⟨⟨root, []⟩, _, bind_ok.2 ⟨none, world, looked,
    bind_ok.2 ⟨(), _, modify_ok.2 rfl, pure_ok.2 ⟨rfl, rfl⟩⟩⟩⟩

namespace Discovered

variable {disk : Listing} {cwd : List String} {opened : List (List String)} {paths : List Path}
  {rows : List (List String)} {least : Nat}

/-- The names of rows that are found in a proper tree are names of entries. -/
theorem isEntryName (found : scanner.Discovered disk cwd directory listing opened least paths rows)
    (proper : listing.isProper = true) {row : List String} (member : row ∈ rows) :
    ∀ name ∈ row, isEntryName name = true := by
  obtain ⟨node, there, -⟩ := ((found.mem_iff row).1 member).2.there
  exact Listing.isEntryName_of_at? proper there

theorem rows_nodup (found : scanner.Discovered disk cwd directory listing opened least paths rows)
    (proper : listing.isProper = true) : rows.Nodup :=
  found.ordered.imp fun before => before.ne proper

/-- No path is found twice in a proper tree. -/
theorem paths_nodup (found : scanner.Discovered disk cwd directory listing opened least paths rows)
    (proper : listing.isProper = true) : paths.Nodup := by
  rw [found.paths_eq]
  refine List.Nodup.map_on ?_ (found.rows_nodup proper)
  intro one isOne two isTwo same
  have named : ∀ row ∈ rows, ∀ name ∈ row, isName name = true := fun row member name inRow =>
    (isEntryName_iff.1 (found.isEntryName proper member name inRow)).1
  have names := congrArg Path.names same
  rw [Path.names_descend (named one isOne), Path.names_descend (named two isTwo)] at names
  exact List.append_cancel_left names

end Discovered

/-- A scan of a proper tree finds no path twice. -/
theorem scan_nodup (proper : world.disk.isProper = true) {root : Path} {artifacts : Artifacts}
    (done : scanner.scan root world = .ok artifacts after) : artifacts.paths.Nodup := by
  obtain ⟨-, ⟨-, none⟩ | ⟨place, inside, rows, -, leads, found⟩⟩ := scan_ok proper done
  · simp [none]
  · exact found.paths_nodup (Listing.isProper_of_at? proper (at?_of_lookup leads))

end Scanner

/-! ## Small trees -/

namespace Sample

/-- A directory with class files below it, in it and behind a link. Other links lead back to the
directory and to a missing entry, and one directory cannot be listed. -/
def tangled : World :=
  { disk :=
      .dir "a" (.file "B.class" ⟨[], 0o644, false⟩ (.link "C.class" "inner/X.class"
        (.dir "inner" (.file "X.class" ⟨[], 0o644, false⟩ (.link "back.class" ".." .empty))
        (.link "gone.class" "nowhere" (.dir "shut" (.file "Y.class" ⟨[], 0o644, false⟩ .empty)
        .empty))))) .empty
    faults := [{ call := .listDirectory, code := 13, about := .named "shut" }]
    now := default }

/-- A directory with a class file and a link to itself that has the ending. -/
def looping : World :=
  { disk := .dir "a" (.link "l.class" "l.class" (.file "x.class" ⟨[], 0o644, false⟩ .empty)) .empty
    now := default }

/-- The directory of the trees. -/
def root : Path := ⟨.relative, ["a"], by decide⟩

end Sample

namespace Scanner

open Program Disk

variable {scanner : Scanner} {directory : Path} {world after : World} {listing : Listing}

/-! ## What scans find and when they return -/

/-- A scan that returns has found nothing if its root leads to no directory. Otherwise a path is found
exactly if it leads on from the root along names whose last one has the ending, through directories
that were all listed, the root among them, to a file or to a link to one. No path is found twice,
and what is below a directory comes before what is in it, both in the order in which the directory
is listed. -/
theorem scan_exact (proper : world.disk.isProper = true) {root : Path} {artifacts : Artifacts}
    (done : scanner.scan root world = .ok artifacts after) :
    artifacts.root = root ∧
      ((isDir world.disk world.cwd root = .ok false ∧ artifacts.paths = []) ∨
        ∃ (place : List String) (inside : Listing) (rows : List (List String)),
          isDir world.disk world.cwd root = .ok true ∧
          lookup world.disk world.cwd true root = .found place (.dir inside) ∧
          (∀ path, path ∈ artifacts.paths ↔
            ∃ row, scanner.Meets root inside (listed root inside world.faults).1
              (IsFileEntry world.disk world.cwd) row ∧ root.descend row = path) ∧
          ([] ∉ (listed root inside world.faults).1 → artifacts.paths = []) ∧
          artifacts.paths.Nodup ∧
          artifacts.paths = rows.map root.descend ∧ rows.Pairwise inside.PostOrder) := by
  have nodup := scan_nodup proper done
  obtain ⟨same, none | ⟨place, inside, rows, answered, leads, found⟩⟩ := scan_ok proper done
  · exact ⟨same, .inl none⟩
  · refine ⟨same, .inr ⟨place, inside, rows, answered, leads, ?_, ?_, nodup, found.paths_eq,
      found.ordered⟩⟩
    · intro path
      simp [found.paths_eq, found.mem_iff]
    · intro shut
      rw [found.paths_eq, List.map_eq_nil_iff, List.eq_nil_iff_forall_not_mem]
      intro row member
      have meets := ((found.mem_iff row).1 member).2
      cases row with
      | nil => exact not_meets_nil meets
      | cons name row => exact shut (isOpen_cons.1 meets.isOpen).1

/-- A scan of a tree with links and a directory that cannot be listed. -/
theorem scan_exact_tangled : ∃ (artifacts : Artifacts) (after : World) (place : List String)
    (inside : Listing) (rows : List (List String)),
    Sample.tangled.disk.isProper = true ∧
      scan {} Sample.root Sample.tangled = .ok artifacts after ∧
      artifacts.paths.map Path.toString = ["a/inner/X.class", "a/B.class", "a/C.class"] ∧
      lookup Sample.tangled.disk Sample.tangled.cwd true Sample.root = .found place (.dir inside) ∧
      artifacts.paths.Nodup ∧ artifacts.paths = rows.map Sample.root.descend ∧
      rows.Pairwise inside.PostOrder := by
  have proper : Sample.tangled.disk.isProper = true := by decide +kernel
  have ends : (scan {} Sample.root).endsWith (fun artifacts =>
      artifacts.paths.map Path.toString = ["a/inner/X.class", "a/B.class", "a/C.class"])
      Sample.tangled = true := by decide +kernel
  obtain ⟨artifacts, after, done, found⟩ := ok_of_endsWith ends
  rw [decide_eq_true_eq] at found
  obtain ⟨-, ⟨-, none⟩ | ⟨place, inside, rows, -, leads, -, -, nodup, same, ordered⟩⟩ :=
    scan_exact proper done
  · simp [none] at found
  · exact ⟨artifacts, after, place, inside, rows, proper, done, found, leads, nodup, same, ordered⟩

/-- A scan returns exactly if the system tells whether its root leads to a directory and, if it does,
follows every link that has the ending and stands in a directory that is listed, or else says that
the entry is missing.  How deep calls can be nested is left out: it bounds the depth of the trees that a
scan gets through. -/
theorem scan_returns_iff (proper : world.disk.isProper = true) (root : Path) :
    (∃ artifacts after, scanner.scan root world = .ok artifacts after) ↔
      isDir world.disk world.cwd root = .ok false ∨
        ∃ place inside, isDir world.disk world.cwd root = .ok true ∧
          lookup world.disk world.cwd true root = .found place (.dir inside) ∧
          ∀ row, ¬ scanner.Meets root inside (listed root inside world.faults).1
            (IsRefused world.disk world.cwd) row := by
  constructor
  · rintro ⟨artifacts, after, done⟩
    obtain ⟨-, ⟨missing, -⟩ | ⟨place, inside, rows, answered, leads, found⟩⟩ := scan_ok proper done
    · exact .inl missing
    · exact .inr ⟨place, inside, answered, leads, fun row => found.unrefused row (Nat.zero_le _)⟩
  · rintro (missing | ⟨place, inside, answered, leads, follows⟩)
    · exact scan_returns_of_missing missing
    · apply scan_returns_of_walk answered leads
      have properInside := Listing.isProper_of_at? proper (at?_of_lookup leads)
      cases walked : scanner.walk root inside world with
      | ok paths after => exact ⟨paths, after, rfl⟩
      | error failure after =>
          obtain ⟨row, meets⟩ := walk_error properInside walked
          exact absurd meets (follows row)

/-- A scan of a tree whose links with the ending all lead to an entry or to a missing one returns. -/
theorem scan_returns_iff_tangled : ∃ (place : List String) (inside : Listing),
    Sample.tangled.disk.isProper = true ∧
      lookup Sample.tangled.disk Sample.tangled.cwd true Sample.root = .found place (.dir inside) ∧
      ∀ row, ¬ Meets {} Sample.root inside (listed Sample.root inside Sample.tangled.faults).1
        (IsRefused Sample.tangled.disk Sample.tangled.cwd) row := by
  have proper : Sample.tangled.disk.isProper = true := by decide +kernel
  have ends : (scan {} Sample.root).endsWith (fun artifacts => artifacts.paths.length = 3)
      Sample.tangled = true := by decide +kernel
  obtain ⟨artifacts, after, done, -⟩ := ok_of_endsWith ends
  obtain missing | ⟨place, inside, -, leads, follows⟩ :=
    (scan_returns_iff proper Sample.root).1 ⟨artifacts, after, done⟩
  · have answered : isDir Sample.tangled.disk Sample.tangled.cwd Sample.root = .ok true := by
      decide +kernel
    rw [answered] at missing
    cases missing
  · exact ⟨place, inside, proper, leads, follows⟩

/-- A link that leads back to itself keeps the class file beside it from being found. -/
theorem scan_fails_looping :
    Sample.looping.disk.isProper = true ∧
      isDir Sample.looping.disk Sample.looping.cwd Sample.root = .ok true ∧
      Sample.looping.disk.at? ["a", "x.class"] = some (.file ⟨[], 0o644, false⟩) ∧
      ∃ after, scan {} Sample.root Sample.looping =
        .error (.system { code := SystemError.tooManyLinks, file := some "a/l.class" }) after := by
  have fails : (scan {} Sample.root).failsWith (fun failure =>
      failure = .system { code := SystemError.tooManyLinks, file := some "a/l.class" })
      Sample.looping = true := by decide +kernel
  obtain ⟨failure, after, failed, same⟩ := error_of_failsWith fails
  rw [decide_eq_true_eq] at same
  subst same
  exact ⟨by decide +kernel, by decide +kernel, by decide +kernel, after, failed⟩

end Scanner

end Enhance
