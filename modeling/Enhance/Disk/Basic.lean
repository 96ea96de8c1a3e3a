/-!
# Trees of files

The contents of a directory are the entries in it: files, links and further directories, in the order
in which they are listed. An entry that is made or renamed is put where the order of names has it; a
system may list it anywhere, so that a statement about what comes later has to hold for every order of
the entries, or say that it is about this one.

`Listing.at?` follows a row of names from a directory downwards, which is the view through which the
changes of a tree are described.
-/

namespace Enhance

/-- The contents of a file and what is kept about it. -/
structure FileData where
  bytes : List UInt8
  /-- The permission bits. -/
  mode : Nat
  /-- Whether the file was written since the tree was set up. -/
  touched : Bool
  deriving DecidableEq, Repr, Inhabited

/-- The entries of a directory. -/
inductive Listing where
  | empty
  | file (name : String) (data : FileData) (rest : Listing)
  | link (name : String) (target : String) (rest : Listing)
  | dir (name : String) (inside : Listing) (rest : Listing)
  deriving DecidableEq, Repr, Inhabited

/-- What an entry of a directory is. -/
inductive Node where
  | file (data : FileData)
  | link (target : String)
  | dir (inside : Listing)
  deriving DecidableEq, Repr

/-- Whether an entry is a directory. -/
def Node.isDir : Node → Bool
  | .dir _ => true
  | _ => false

/-- Whether an entry is a file. -/
def Node.isFile : Node → Bool
  | .file _ => true
  | _ => false

namespace Listing

/-- An entry in front of others. -/
def cons (name : String) (node : Node) (rest : Listing) : Listing :=
  match node with
  | .file data => .file name data rest
  | .link target => .link name target rest
  | .dir inside => .dir name inside rest

/-- The entries with their names. -/
def entries : Listing → List (String × Node)
  | .empty => []
  | .file name data rest => (name, .file data) :: rest.entries
  | .link name target rest => (name, .link target) :: rest.entries
  | .dir name inside rest => (name, .dir inside) :: rest.entries

/-- The entry of that name. -/
def find? (wanted : String) : Listing → Option Node
  | .empty => none
  | .file name data rest => if name = wanted then some (.file data) else rest.find? wanted
  | .link name target rest => if name = wanted then some (.link target) else rest.find? wanted
  | .dir name inside rest => if name = wanted then some (.dir inside) else rest.find? wanted

/-- The entries of other names. -/
def erase (unwanted : String) : Listing → Listing
  | .empty => .empty
  | .file name data rest =>
    if name = unwanted then rest.erase unwanted else .file name data (rest.erase unwanted)
  | .link name target rest =>
    if name = unwanted then rest.erase unwanted else .link name target (rest.erase unwanted)
  | .dir name inside rest =>
    if name = unwanted then rest.erase unwanted else .dir name inside (rest.erase unwanted)

/-- The entries with a further one at its place in the order of names, which stands for every order that
a system may list them in. -/
def place (new : String) (node : Node) : Listing → Listing
  | .empty => cons new node .empty
  | .file name data rest =>
    if new < name then cons new node (.file name data rest)
    else .file name data (rest.place new node)
  | .link name target rest =>
    if new < name then cons new node (.link name target rest)
    else .link name target (rest.place new node)
  | .dir name inside rest =>
    if new < name then cons new node (.dir name inside rest)
    else .dir name inside (rest.place new node)

/-- The entries with an entry of that name replaced or added. -/
def insert (name : String) (node : Node) (listing : Listing) : Listing :=
  (listing.erase name).place name node

/-- The entries with a change made inside the directory of that name. -/
def inside (wanted : String) (change : Listing → Listing) : Listing → Listing
  | .empty => .empty
  | .file name data rest => .file name data (rest.inside wanted change)
  | .link name target rest => .link name target (rest.inside wanted change)
  | .dir name inner rest =>
    if name = wanted then .dir name (change inner) rest
    else .dir name inner (rest.inside wanted change)

/-- What a row of names leads to. Links are not followed. -/
def at? (listing : Listing) : List String → Option Node
  | [] => some (.dir listing)
  | name :: names =>
    match listing.find? name, names with
    | some (.dir inside), names => inside.at? names
    | some node, [] => some node
    | _, _ => none

/-- A change made in the directory that a row of names leads to. -/
def modify (change : Listing → Listing) : List String → Listing → Listing
  | [], listing => change listing
  | name :: names, listing => listing.inside name (modify change names)

/-- The number of links in a tree. -/
def linkCount : Listing → Nat
  | .empty => 0
  | .file _ _ rest => rest.linkCount
  | .link _ _ rest => rest.linkCount + 1
  | .dir _ inside rest => inside.linkCount + rest.linkCount

/-- The number of entries in a tree. -/
def entryCount : Listing → Nat
  | .empty => 0
  | .file _ _ rest => rest.entryCount + 1
  | .link _ _ rest => rest.entryCount + 1
  | .dir _ inside rest => inside.entryCount + rest.entryCount + 1

@[simp] theorem find?_cons (wanted name : String) (node : Node) (rest : Listing) :
    (cons name node rest).find? wanted =
      if name = wanted then some node else rest.find? wanted := by
  cases node <;> rfl

@[simp] theorem find?_erase_same (name : String) (listing : Listing) :
    (listing.erase name).find? name = none := by
  induction listing with
  | empty => rfl
  | file other data rest ih | link other target rest ih | dir other inner rest _ ih =>
    by_cases h : other = name <;> simp [erase, find?, h, ih]

theorem find?_erase_of_ne {name wanted : String} (ne : name ≠ wanted) (listing : Listing) :
    (listing.erase name).find? wanted = listing.find? wanted := by
  induction listing with
  | empty => rfl
  | file other data rest ih | link other target rest ih | dir other inner rest _ ih =>
    by_cases h : other = name
    · subst h
      simp [erase, find?, ne, ih]
    · simp [erase, find?, h, ih]

theorem find?_place_of_ne {name wanted : String} (ne : name ≠ wanted) (node : Node)
    (listing : Listing) : (listing.place name node).find? wanted = listing.find? wanted := by
  induction listing with
  | empty => simp [place, find?, ne]
  | file other data rest ih | link other target rest ih | dir other inner rest _ ih =>
    unfold place
    split
    · simp [ne]
    · simp [find?, ih]

theorem find?_place_same {name : String} (node : Node) {listing : Listing}
    (absent : listing.find? name = none) :
    (listing.place name node).find? name = some node := by
  induction listing with
  | empty => simp [place]
  | file other data rest ih | link other target rest ih | dir other inner rest _ ih =>
    unfold place
    split
    · simp
    · by_cases h : other = name
      · simp [find?, h] at absent
      · simp only [find?, h, ↓reduceIte] at absent ⊢
        exact ih absent

@[simp] theorem find?_insert_same (name : String) (node : Node) (listing : Listing) :
    (listing.insert name node).find? name = some node :=
  find?_place_same node (find?_erase_same name listing)

theorem find?_insert_of_ne {name wanted : String} (ne : name ≠ wanted) (node : Node)
    (listing : Listing) : (listing.insert name node).find? wanted = listing.find? wanted := by
  unfold insert
  rw [find?_place_of_ne ne, find?_erase_of_ne ne]

theorem find?_inside_of_ne {name wanted : String} (ne : name ≠ wanted)
    (change : Listing → Listing) (listing : Listing) :
    (listing.inside name change).find? wanted = listing.find? wanted := by
  induction listing with
  | empty => rfl
  | file other data rest ih | link other target rest ih => simp [inside, find?, ih]
  | dir other inner rest _ ih =>
    unfold inside
    split
    · rename_i h
      subst h
      simp [find?, ne]
    · simp [find?, ih]

@[simp] theorem at?_nil (listing : Listing) : listing.at? [] = some (.dir listing) := rfl

@[simp] theorem at?_singleton (listing : Listing) (name : String) :
    listing.at? [name] = listing.find? name := by
  unfold at?
  cases listing.find? name with
  | none => rfl
  | some node => cases node <;> rfl

end Listing

end Enhance
