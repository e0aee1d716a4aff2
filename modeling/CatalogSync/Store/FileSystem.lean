import CatalogSync.Store.Path

/-!
# Files and directories

A file system as the paths that exist and what each of them is, no path there holding `.` or `..`.
`locate` follows a path to the place it leads to. Operations fail as an operating system does: a
path is only followed through directories, a directory is not read or replaced, and a file is not
created twice. `node_set` and `node_remove` say what the two changes do to every place.
-/

namespace CatalogSync

/-- What is at a place. -/
inductive Node where
  | file (bytes : ByteArray)
  | directory

/-- The nodes below the root. -/
structure FileSystem where
  entries : List (Path × Node)

namespace FileSystem

def empty : FileSystem := ⟨[]⟩

/-- What is at a path; the root is always a directory. -/
def node (fs : FileSystem) (p : Path) : Option Node :=
  if p = [] then some .directory else fs.entries.lookup p

/-- Forget what is at a path. -/
def remove (fs : FileSystem) (p : Path) : FileSystem := ⟨fs.entries.filter (·.1 ≠ p)⟩

/-- Put a node at a path. -/
def set (fs : FileSystem) (p : Path) (n : Node) : FileSystem := ⟨(p, n) :: (fs.remove p).entries⟩

theorem lookup_filter_ne (entries : List (Path × Node)) (p q : Path) :
    (entries.filter (·.1 ≠ p)).lookup q = if q = p then none else entries.lookup q := by
  induction entries with
  | nil => simp
  | cons e rest ih =>
    obtain ⟨r, n⟩ := e
    by_cases hr : r = p
    · subst hr
      simp only [ne_eq, not_true_eq_false, decide_false, Bool.false_eq_true, not_false_eq_true,
        List.filter_cons_of_neg]
      rw [ih, List.lookup_cons]
      by_cases hq : q = r
      · simp [hq]
      · rw [if_neg hq, if_neg hq, beq_false_of_ne hq]
    · simp only [ne_eq, hr, not_false_eq_true, decide_true, List.filter_cons_of_pos]
      rw [List.lookup_cons, List.lookup_cons, ih]
      by_cases hq : q = r
      · subst hq
        simp [hr]
      · rw [beq_false_of_ne hq]

@[simp] theorem node_remove (fs : FileSystem) (p q : Path) (hq : q ≠ []) :
    (fs.remove p).node q = if q = p then none else fs.node q := by
  rw [node, node, if_neg hq, if_neg hq, remove, lookup_filter_ne]

@[simp] theorem node_set (fs : FileSystem) (p q : Path) (n : Node) (hq : q ≠ []) :
    (fs.set p n).node q = if q = p then some n else fs.node q := by
  rw [node, node, if_neg hq, if_neg hq, set, List.lookup_cons]
  by_cases h : q = p
  · simp [h]
  · rw [if_neg h, beq_false_of_ne h]
    simp only [remove, lookup_filter_ne, if_neg h]

/-- Go on to a name from a place, which has to be a directory. -/
def enter (fs : FileSystem) (place : Path) (name : String) : Except FileFault Path :=
  match fs.node place with
  | none => .error .notFound
  | some (.file _) => .error .notDirectory
  | some .directory =>
    if name = "." then .ok place
    else if name = ".." then .ok place.dropLast
    else if Path.maxName < name.utf8ByteSize then .error .nameTooLong
    else .ok (place ++ [name])

/-- The place that a path leads to; there may be nothing at it. -/
def locate (fs : FileSystem) (p : Path) : Except FileFault Path :=
  match p.fault? with
  | some fault => .error fault
  | none => p.foldlM fs.enter []

/-- The content of a file. -/
def read (fs : FileSystem) (p : Path) : Except FileFault ByteArray := do
  match fs.node (← fs.locate p) with
  | some (.file bytes) => .ok bytes
  | some .directory => .error .isDirectory
  | none => .error .notFound

/-- The text in a file, if there is a file and it holds a text. -/
def text? (fs : FileSystem) (p : Path) : Option String :=
  match fs.read p with
  | .ok bytes => String.fromUTF8? bytes
  | .error _ => none

/-- Make a path a directory unless it is one. -/
def createDirectory (fs : FileSystem) (p : Path) : Except FileFault FileSystem := do
  let place ← fs.locate p
  match fs.node place with
  | some .directory => .ok fs
  | some (.file _) => .error .alreadyExists
  | none => .ok (fs.set place .directory)

/-- Whether a path can be made a directory once the directories it leads through are there: only
missing ones may stand in its way. -/
def admitDirectory (fs : FileSystem) (p : Path) : Except FileFault Unit :=
  match fs.createDirectory p with
  | .ok _ | .error .notFound => .ok ()
  | .error fault => .error fault

/-- Make a path a directory, with every directory it leads through. -/
def createDirectories (fs : FileSystem) (p : Path) : Except FileFault FileSystem := do
  fs.admitDirectory p
  p.prefixes.foldlM createDirectory fs

/-- Make an empty file where nothing is. -/
def createFile (fs : FileSystem) (p : Path) : Except FileFault FileSystem := do
  let place ← fs.locate p
  match fs.node place with
  | none => .ok (fs.set place (.file .empty))
  | some _ => .error .alreadyExists

/-- Write bytes behind the content of a file. -/
def append (fs : FileSystem) (p : Path) (bytes : ByteArray) : Except FileFault FileSystem := do
  let place ← fs.locate p
  match fs.node place with
  | some (.file content) => .ok (fs.set place (.file (content ++ bytes)))
  | some .directory => .error .isDirectory
  | none => .error .notFound

/-- The place that a file may be moved to: where a name leads, and not `.` or `..`. -/
def destination (fs : FileSystem) (p : Path) : Except FileFault Path :=
  match p.fault?, p.getLast? with
  | some .zeroByte, _ => .error .invalidArgument
  | some fault, _ => .error fault
  | none, none | none, some "." | none, some ".." => .error .busy
  | none, some "" => .error .notFound
  | none, some _ => fs.locate p

/-- Move a file, replacing a file at its new path in the same moment. -/
def rename (fs : FileSystem) (source target : Path) : Except FileFault FileSystem := do
  let content ← fs.read source
  let left ← fs.locate source
  let place ← fs.destination target
  match fs.node place with
  | some .directory => .error .isDirectory
  | _ => .ok ((fs.remove left).set place (.file content))

/-- Delete a file, if the path leads to one. -/
def unlink (fs : FileSystem) (p : Path) : FileSystem :=
  match fs.locate p with
  | .ok place =>
    match fs.node place with
    | some (.file _) => fs.remove place
    | _ => fs
  | .error _ => fs

/-- Put a file at a path, with every directory it leads through, unless something stands in its
way. -/
def place (fs : FileSystem) (p : Path) (bytes : ByteArray) : FileSystem :=
  let placed := do
    let fs ← fs.createDirectories p.parent
    let place ← fs.destination p
    match fs.node place with
    | some .directory => .error .isDirectory
    | _ => .ok (fs.set place (.file bytes))
  match placed with
  | .ok fs => fs
  | .error _ => fs

/-- What is below a directory, in order and relative to it, with a slash behind directories. -/
def listing (fs : FileSystem) (dir : Path) : List String :=
  let below := fs.entries.filterMap fun (place, node) =>
    let rest : Path := place.drop dir.length
    if dir.isPrefixOf place ∧ rest ≠ [] then
      match node with
      | .directory => some (rest.text ++ "/")
      | .file _ => some rest.text
    else none
  below.mergeSort (· ≤ ·)

/-- The names of the files that are made for a while. -/
def temporaryName (n : Nat) : String :=
  let digits := toString n
  ".tmp" ++ "".pushn '0' (6 - digits.length) ++ digits

/-- A name that nothing has and that is not in a path: one more is tried than there are names. -/
def freshName (fs : FileSystem) (p : Path) : String :=
  let taken := p ++ fs.entries.flatMap (·.1)
  let candidates := (List.range (taken.length + 1)).map temporaryName
  (candidates.find? fun name => !taken.contains name).getD (temporaryName 0)

end FileSystem

end CatalogSync
