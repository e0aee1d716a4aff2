import CatalogSync.Store.FileSystem
import Mathlib.Tactic.ByContra

/-!
# Where paths lead

A path is followed through directories and nothing else, so that it leads to the same place as long
as these stay. Whatever is found, or stands in the way, is still there when nodes are added; only
where nothing was found may something be found later.
-/

namespace CatalogSync.FileSystem

variable {fs fs' : FileSystem} {place : Path}

/-- There is always a root. -/
@[simp] theorem node_root (fs : FileSystem) : fs.node [] = some .directory := rfl

/-- A file is not at the root. -/
theorem ne_nil_of_file {bytes : ByteArray} (h : fs.node place = some (.file bytes)) :
    place ≠ [] := by
  rintro rfl
  cases h

/-- The root is never missing. -/
theorem ne_nil_of_none (h : fs.node place = none) : place ≠ [] := by
  rintro rfl
  cases h

/-- Elsewhere a node that is put somewhere is not noticed. -/
theorem node_set_of_ne {other : Path} {node : Node} (h : other ≠ place) :
    (fs.set place node).node other = fs.node other := by
  by_cases hroot : other = []
  · rw [hroot]
    rfl
  · rw [node_set _ _ _ _ hroot, if_neg h]

/-- Removing a node leaves every other place as it was. -/
theorem node_remove_of_ne {other : Path} (h : other ≠ place) :
    (fs.remove place).node other = fs.node other := by
  by_cases hroot : other = []
  · rw [hroot]
    rfl
  · rw [node_remove _ _ _ hroot, if_neg h]

/-- Where a list of names leads from a place. -/
def walk (fs : FileSystem) (place : Path) (names : List String) : Except FileFault Path :=
  names.foldlM fs.enter place

/-- Without names one stays in place. -/
@[simp] theorem walk_nil (fs : FileSystem) (place : Path) : fs.walk place [] = .ok place := rfl

/-- Names are followed one after the other. -/
theorem walk_cons (fs : FileSystem) (place : Path) (name : String) (names : List String) :
    fs.walk place (name :: names) = (fs.enter place name).bind (fs.walk · names) := rfl

/-- A list of names may be followed in two parts. -/
theorem walk_append (fs : FileSystem) (place : Path) (names rest : List String) :
    fs.walk place (names ++ rest) = (fs.walk place names).bind (fs.walk · rest) :=
  List.foldlM_append

/-- A path leads where its names do, if there is nothing wrong with it. -/
theorem locate_eq_ok {p : Path} :
    fs.locate p = .ok place ↔ p.fault? = none ∧ fs.walk [] p = .ok place := by
  unfold locate
  rcases p.fault? with _ | fault
  · exact ⟨fun h => ⟨rfl, h⟩, And.right⟩
  · simp

/-- A name is only followed from a directory: to itself, up, or down. -/
theorem enter_cases {name : String} {next : Path} (h : fs.enter place name = .ok next) :
    fs.node place = some .directory ∧
      (name = "." ∧ next = place ∨ name = ".." ∧ next = place.dropLast ∨
        name ≠ "." ∧ name ≠ ".." ∧ next = place ++ [name]) := by
  unfold enter at h
  split at h
  · cases h
  · cases h
  · next hdirectory =>
    refine ⟨hdirectory, ?_⟩
    by_cases hdot : name = "."
    · rw [if_pos hdot] at h
      cases h
      exact .inl ⟨hdot, rfl⟩
    · rw [if_neg hdot] at h
      by_cases hdots : name = ".."
      · rw [if_pos hdots] at h
        cases h
        exact .inr (.inl ⟨hdots, rfl⟩)
      · rw [if_neg hdots] at h
        split at h <;> cases h
        exact .inr (.inr ⟨hdot, hdots, rfl⟩)

/-- Two steps of a walk. -/
theorem walk_cons_eq_ok {name : String} {names : List String} {next : Path} :
    fs.walk place (name :: names) = .ok next ↔
      ∃ entered, fs.enter place name = .ok entered ∧ fs.walk entered names = .ok next := by
  rw [walk_cons]
  rcases fs.enter place name with fault | entered
  · simp [Except.bind]
  · simp [Except.bind]

/-- Where the same is, the same names are followed. -/
theorem enter_congr (h : fs'.node place = fs.node place) (name : String) :
    fs'.enter place name = fs.enter place name := by
  unfold enter
  rw [h]

/-- The directories of one file system are directories of the other. -/
def KeepsDirectories (fs fs' : FileSystem) : Prop :=
  ∀ place, fs.node place = some .directory → fs'.node place = some .directory

/-- Where the directories stay, names lead where they led. -/
theorem KeepsDirectories.walk (h : fs.KeepsDirectories fs') {names : List String} {next : Path}
    (hwalk : fs.walk place names = .ok next) : fs'.walk place names = .ok next := by
  induction names generalizing place with
  | nil => exact hwalk
  | cons name names ih =>
    obtain ⟨entered, henter, hrest⟩ := walk_cons_eq_ok.1 hwalk
    have hdirectory := (enter_cases henter).1
    rw [← enter_congr ((h place hdirectory).trans hdirectory.symm)] at henter
    exact walk_cons_eq_ok.2 ⟨entered, henter, ih hrest⟩

/-- As long as the directories stay, a path leads where it did. -/
theorem KeepsDirectories.locate (h : fs.KeepsDirectories fs') {p : Path}
    (hlocate : fs.locate p = .ok place) : fs'.locate p = .ok place := by
  obtain ⟨hfault, hwalk⟩ := locate_eq_ok.1 hlocate
  exact locate_eq_ok.2 ⟨hfault, h.walk hwalk⟩

/-- Everything that one file system has is in the other. -/
def Extends (fs fs' : FileSystem) : Prop :=
  ∀ place node, fs.node place = some node → fs'.node place = some node

/-- A file system has everything that it has. -/
theorem Extends.refl (fs : FileSystem) : fs.Extends fs := fun _ _ => id

/-- What is added in two steps is added. -/
theorem Extends.trans {fs'' : FileSystem} (h : fs.Extends fs') (h' : fs'.Extends fs'') :
    fs.Extends fs'' := fun place node hnode => h' place node (h place node hnode)

/-- Where nothing is lost, no directory is. -/
theorem Extends.keepsDirectories (h : fs.Extends fs') : fs.KeepsDirectories fs' :=
  fun place => h place .directory

/-- Where nothing is, something may be put. -/
theorem extends_set {node : Node} (h : fs.node place = none) : fs.Extends (fs.set place node) := by
  intro other n hn
  have hne : other ≠ place := by
    rintro rfl
    cases h.symm.trans hn
  rwa [node_set_of_ne hne]

/-- A file that is replaced by another one was no directory. -/
theorem keepsDirectories_set {node : Node} (h : fs.node place ≠ some .directory) :
    fs.KeepsDirectories (fs.set place node) := by
  intro other hother
  have hne : other ≠ place := by
    rintro rfl
    exact h hother
  rwa [node_set_of_ne hne]

/-- Removing a file loses no directory. -/
theorem keepsDirectories_remove (h : fs.node place ≠ some .directory) :
    fs.KeepsDirectories (fs.remove place) := by
  intro other hother
  have hne : other ≠ place := by
    rintro rfl
    exact h hother
  rwa [node_remove_of_ne hne]

/-- A path leads to no more names than it has. -/
theorem length_walk_le {names : List String} {next : Path} (h : fs.walk place names = .ok next) :
    next.length ≤ place.length + names.length := by
  induction names generalizing place with
  | nil =>
    cases h
    exact Nat.le_refl _
  | cons name names ih =>
    obtain ⟨entered, henter, hrest⟩ := walk_cons_eq_ok.1 h
    have hlength := ih hrest
    have hentered : entered.length ≤ place.length + 1 := by
      rcases (enter_cases henter).2 with ⟨-, rfl⟩ | ⟨-, rfl⟩ | ⟨-, -, rfl⟩ <;> simp
      omega
    rw [List.length_cons]
    omega

/-- Following another name leads to no place with a hidden name. -/
theorem notMem_of_enter {hidden name : String} {entered : Path} (hplace : hidden ∉ place)
    (hname : hidden ≠ name) (h : fs.enter place name = .ok entered) : hidden ∉ entered := by
  rcases (enter_cases h).2 with ⟨-, rfl⟩ | ⟨-, rfl⟩ | ⟨-, -, rfl⟩
  · exact hplace
  · exact fun hmem => hplace ((List.dropLast_sublist place).mem hmem)
  · simpa using ⟨hplace, hname⟩

/-- A path that ends in a name leads to it. -/
theorem mem_of_walk {name : String} {names : List String} {next : Path} (hdot : name ≠ ".")
    (hdots : name ≠ "..") (h : fs.walk place (names ++ [name]) = .ok next) : name ∈ next := by
  induction names generalizing place with
  | nil =>
    obtain ⟨entered, henter, hrest⟩ := walk_cons_eq_ok.1 h
    cases hrest
    rcases (enter_cases henter).2 with ⟨h, -⟩ | ⟨h, -⟩ | ⟨-, -, rfl⟩
    · exact absurd h hdot
    · exact absurd h hdots
    · simp
  | cons first names ih =>
    obtain ⟨entered, -, hrest⟩ := walk_cons_eq_ok.1 h
    exact ih hrest

/-- What is read at a place. -/
def readAt (fs : FileSystem) (place : Path) : Except FileFault ByteArray :=
  match fs.node place with
  | some (.file bytes) => .ok bytes
  | some .directory => .error .isDirectory
  | none => .error .notFound

/-- What is read where names lead. -/
def readFrom (fs : FileSystem) (place : Path) (names : List String) : Except FileFault ByteArray :=
  (fs.walk place names).bind fs.readAt

/-- What is read where names lead is read from where the first of them leads. -/
theorem readFrom_cons (fs : FileSystem) (place : Path) (name : String) (names : List String) :
    fs.readFrom place (name :: names) = (fs.enter place name).bind (fs.readFrom · names) := by
  rw [readFrom, walk_cons]
  cases fs.enter place name <;> rfl

/-- A path is read where its names lead, if there is nothing wrong with it. -/
theorem read_eq (fs : FileSystem) (p : Path) : fs.read p = match p.fault? with
    | some fault => .error fault
    | none => fs.readFrom [] p := by
  unfold read locate
  rcases p.fault? with _ | fault
  · change (fs.walk [] p).bind _ = _
    rfl
  · rfl

/-- A file is read where a path leads. -/
theorem read_eq_ok {p : Path} {bytes : ByteArray} :
    fs.read p = .ok bytes ↔
      ∃ place, fs.locate p = .ok place ∧ fs.node place = some (.file bytes) := by
  have hread : fs.read p = (fs.locate p).bind fs.readAt := rfl
  rw [hread]
  rcases fs.locate p with fault | place
  · simp [Except.bind]
  · rcases hnode : fs.node place with _ | bytes' | _ <;> simp [Except.bind, readAt, hnode]

/-- As long as the directories stay, what is put where a path leads is read there. -/
theorem KeepsDirectories.read_eq_ok (h : fs.KeepsDirectories fs') {p : Path} {bytes : ByteArray}
    (hlocate : fs.locate p = .ok place) (hnode : fs'.node place = some (.file bytes)) :
    fs'.read p = .ok bytes :=
  FileSystem.read_eq_ok.2 ⟨place, h.locate hlocate, hnode⟩

section Operations

variable {p : Path}

/-- A directory is made where the path leads, unless something is there; one that is there is no
fault. -/
theorem createDirectory_eq_bind (fs : FileSystem) (p : Path) : fs.createDirectory p =
    (fs.locate p).bind fun place => match fs.node place with
      | some .directory => .ok fs
      | some (.file _) => .error .alreadyExists
      | none => .ok (fs.set place .directory) := rfl

/-- A file is made where the path leads, if nothing is there. -/
theorem createFile_eq_bind (fs : FileSystem) (p : Path) : fs.createFile p =
    (fs.locate p).bind fun place => match fs.node place with
      | none => .ok (fs.set place (.file .empty))
      | some _ => .error .alreadyExists := rfl

/-- Bytes are appended to the file where the path leads. -/
theorem append_eq_bind (fs : FileSystem) (p : Path) (bytes : ByteArray) : fs.append p bytes =
    (fs.locate p).bind fun place => match fs.node place with
      | some (.file content) => .ok (fs.set place (.file (content ++ bytes)))
      | some .directory => .error .isDirectory
      | none => .error .notFound := rfl

/-- A file is moved to its destination, over a file that is there, but over no directory. -/
theorem rename_eq_bind (fs : FileSystem) (source p : Path) : fs.rename source p =
    (fs.read source).bind fun content => (fs.locate source).bind fun left =>
      (fs.destination p).bind fun place => match fs.node place with
        | some .directory => .error .isDirectory
        | _ => .ok ((fs.remove left).set place (.file content)) := rfl

/-- A directory is there, or it is put where nothing was. -/
theorem createDirectory_eq_ok : fs.createDirectory p = .ok fs' ↔ ∃ place, fs.locate p = .ok place ∧
    (fs.node place = some .directory ∧ fs' = fs ∨
      fs.node place = none ∧ fs' = fs.set place .directory) := by
  rw [createDirectory_eq_bind]
  rcases fs.locate p with fault | place
  · simp [Except.bind]
  · rcases hnode : fs.node place with _ | bytes | _ <;> simp [Except.bind, hnode, eq_comm]

/-- A file is put where nothing was. -/
theorem createFile_eq_ok : fs.createFile p = .ok fs' ↔ ∃ place, fs.locate p = .ok place ∧
    fs.node place = none ∧ fs' = fs.set place (.file .empty) := by
  rw [createFile_eq_bind]
  rcases fs.locate p with fault | place
  · simp [Except.bind]
  · rcases hnode : fs.node place with _ | node <;> simp [Except.bind, hnode, eq_comm]

/-- Bytes are written behind those of a file. -/
theorem append_eq_ok {bytes : ByteArray} : fs.append p bytes = .ok fs' ↔
    ∃ place content, fs.locate p = .ok place ∧ fs.node place = some (.file content) ∧
      fs' = fs.set place (.file (content ++ bytes)) := by
  rw [append_eq_bind]
  rcases fs.locate p with fault | place
  · simp [Except.bind]
  · rcases hnode : fs.node place with _ | content | _ <;> simp [Except.bind, hnode, eq_comm]

/-- A file is moved to where nothing is or another file. -/
theorem rename_eq_ok {source : Path} : fs.rename source p = .ok fs' ↔
    ∃ content left place, fs.read source = .ok content ∧ fs.locate source = .ok left ∧
      fs.destination p = .ok place ∧ fs.node place ≠ some .directory ∧
      fs' = (fs.remove left).set place (.file content) := by
  rw [rename_eq_bind]
  rcases fs.read source with fault | content
  · simp [Except.bind]
  rcases fs.locate source with fault | left
  · simp [Except.bind]
  rcases fs.destination p with fault | place
  · simp [Except.bind]
  rcases hnode : fs.node place with _ | bytes | _ <;> simp [Except.bind, hnode, eq_comm]

/-- A destination is where the path leads. -/
theorem locate_of_destination (h : fs.destination p = .ok place) : fs.locate p = .ok place := by
  unfold destination at h
  split at h <;> first | exact h | cases h

/-- A new file is empty. -/
theorem read_createFile (h : fs.createFile p = .ok fs') : fs'.read p = .ok .empty := by
  obtain ⟨place, hlocate, hnode, rfl⟩ := createFile_eq_ok.1 h
  refine (extends_set hnode).keepsDirectories.read_eq_ok hlocate ?_
  rw [node_set _ _ _ _ (ne_nil_of_none hnode), if_pos rfl]

/-- A file holds what it held and what was written behind it. -/
theorem read_append {content bytes : ByteArray} (hread : fs.read p = .ok content)
    (h : fs.append p bytes = .ok fs') : fs'.read p = .ok (content ++ bytes) := by
  obtain ⟨place, content', hlocate, hnode, rfl⟩ := append_eq_ok.1 h
  obtain ⟨place', hlocate', hnode'⟩ := read_eq_ok.1 hread
  cases hlocate.symm.trans hlocate'
  cases hnode.symm.trans hnode'
  have hfile : fs.node place ≠ some .directory := by
    rw [hnode]
    exact nofun
  refine (keepsDirectories_set hfile).read_eq_ok hlocate ?_
  rw [node_set _ _ _ _ (ne_nil_of_file hnode), if_pos rfl]

/-- Moving a file, be it over another one, takes no directory away. -/
theorem keepsDirectories_rename {source : Path} (h : fs.rename source p = .ok fs') :
    fs.KeepsDirectories fs' := by
  obtain ⟨content, left, place, hread, hleft, -, hplace, rfl⟩ := rename_eq_ok.1 h
  obtain ⟨left', hleft', hfile⟩ := read_eq_ok.1 hread
  cases hleft.symm.trans hleft'
  have hgone : fs.node left ≠ some .directory := by
    rw [hfile]
    exact nofun
  have hplace' : (fs.remove left).node place ≠ some .directory := by
    by_cases hsame : place = left
    · rw [hsame, node_remove _ _ _ (ne_nil_of_file hfile), if_pos rfl]
      exact nofun
    · rwa [node_remove_of_ne hsame]
  exact fun other hother =>
    keepsDirectories_set hplace' other (keepsDirectories_remove hgone other hother)

/-- What was read at the one path is then read at the other. -/
theorem read_rename {source : Path} {content : ByteArray} (hread : fs.read source = .ok content)
    (h : fs.rename source p = .ok fs') : fs'.read p = .ok content := by
  have hkeeps := keepsDirectories_rename h
  obtain ⟨content', left, place, hread', -, hdestination, hplace, rfl⟩ := rename_eq_ok.1 h
  cases hread.symm.trans hread'
  have hne : place ≠ [] := by
    rintro rfl
    exact hplace rfl
  refine hkeeps.read_eq_ok (locate_of_destination hdestination) ?_
  rw [node_set _ _ _ _ hne, if_pos rfl]

end Operations

section Making

/-- Every node is in a directory. -/
def IsTree (fs : FileSystem) : Prop :=
  ∀ place name node, fs.node (place ++ [name]) = some node → fs.node place = some .directory

/-- But for places with a hidden name, the file systems differ in directories only that the other
one has, at places of fewer names than so many. -/
def MakesDirectories (hidden : String) (bound : Nat) (fs fs' : FileSystem) : Prop :=
  ∀ place, hidden ∉ place → fs'.node place = fs.node place ∨
    fs.node place = none ∧ fs'.node place = some .directory ∧ place.length < bound

/-- Names that can be followed wherever there is a directory, and only down. -/
def AreStraight (names : List String) : Prop :=
  ∀ name ∈ names, name ≠ ".." ∧ name.utf8ByteSize ≤ Path.maxName

/-- How many of the names lead down. -/
def depthOf (names : List String) : Nat := (names.filter (· ≠ ".")).length

variable {hidden : String} {bound : Nat} {names : List String}

/-- What leads down is one more name of the place and one less of the path. -/
theorem depthOf_cons {name : String} (h : name ≠ ".") :
    depthOf (name :: names) = depthOf names + 1 := by
  simp [depthOf, h]

/-- Without dots every name counts. -/
theorem depthOf_eq_length (h : "." ∉ names) : depthOf names = names.length := by
  rw [depthOf, List.filter_eq_self.2 fun name hname => by simpa using ne_of_mem_of_not_mem hname h]

/-- Nothing is found where nothing is. -/
theorem readFrom_none (h : fs.node place = none) : fs.readFrom place names = .error .notFound := by
  cases names with
  | nil =>
    change fs.readAt place = _
    rw [readAt, h]
  | cons name names =>
    have henter : fs.enter place name = .error .notFound := by
      unfold enter
      rw [h]
    rw [readFrom_cons, henter]
    rfl

/-- Names that are followed no more than down, and so far that no directory was made behind them;
or no directory was made at all. -/
def PassesMade (bound : Nat) (place : Path) (names : List String) : Prop :=
  bound = 0 ∨ AreStraight names ∧ bound ≤ place.length + depthOf names

/-- After a name there are fewer to follow from where it leads. -/
theorem PassesMade.enter {name : String} {entered : Path}
    (h : PassesMade bound place (name :: names))
    (hentered : name = "." ∧ entered = place ∨ name = ".." ∧ entered = place.dropLast ∨
      name ≠ "." ∧ name ≠ ".." ∧ entered = place ++ [name]) : PassesMade bound entered names := by
  refine h.imp_right ?_
  rintro ⟨hstraight, hbound⟩
  refine ⟨fun n hn => hstraight n (List.mem_cons_of_mem name hn), ?_⟩
  rcases hentered with ⟨rfl, rfl⟩ | ⟨hdots, -⟩ | ⟨hdot, -, rfl⟩
  · simpa [depthOf] using hbound
  · exact absurd hdots (hstraight name List.mem_cons_self).1
  · rw [depthOf_cons hdot] at hbound
    rw [List.length_append, List.length_singleton]
    omega

/-- Where nothing was, nothing is found after directories were made on the way: the names lead
further than any of these. -/
theorem readFrom_of_none (hfs : fs.IsTree) (h : MakesDirectories hidden bound fs fs')
    (hpasses : PassesMade bound place names) (hnames : hidden ∉ names) (hplace : hidden ∉ place)
    (hnone : fs.node place = none) : fs'.readFrom place names = .error .notFound := by
  induction names generalizing place with
  | nil =>
    rcases h place hplace with hsame | ⟨-, -, hlt⟩
    · exact readFrom_none (hsame.trans hnone)
    · have hbound : bound ≤ place.length + 0 := (hpasses.resolve_left (by omega)).2
      omega
  | cons name names ih =>
    rcases h place hplace with hsame | ⟨-, hmade, hlt⟩
    · exact readFrom_none (hsame.trans hnone)
    · obtain ⟨hstraight, -⟩ := hpasses.resolve_left (by omega)
      obtain ⟨hdots, hshort⟩ := hstraight name List.mem_cons_self
      rw [List.mem_cons, not_or] at hnames
      rw [readFrom_cons, FileSystem.enter, hmade]
      by_cases hdot : name = "."
      · have hpasses' := hpasses.enter (.inl ⟨hdot, rfl⟩)
        simpa only [if_pos hdot, Except.bind] using ih hpasses' hnames.2 hplace hnone
      · have hpasses' := hpasses.enter (.inr (.inr ⟨hdot, hdots, rfl⟩))
        have hplace' : hidden ∉ place ++ [name] := by simpa using ⟨hplace, hnames.1⟩
        have hnone' : fs.node (place ++ [name]) = none := by
          by_contra hsome
          obtain ⟨node, hnode⟩ := Option.ne_none_iff_exists'.1 hsome
          cases hnone.symm.trans (hfs place name node hnode)
        simpa only [if_neg hdot, if_neg hdots, if_neg (Nat.not_lt.2 hshort), Except.bind] using
          ih hpasses' hnames.2 hplace' hnone'

/-- Directories that are made on the way to a file are not noticed by who reads it. -/
theorem readFrom_of_makes (hfs : fs.IsTree) (h : MakesDirectories hidden bound fs fs')
    (hpasses : PassesMade bound place names) (hnames : hidden ∉ names) (hplace : hidden ∉ place) :
    fs'.readFrom place names = fs.readFrom place names := by
  induction names generalizing place with
  | nil =>
    by_cases hnone : fs.node place = none
    · rw [readFrom_none hnone, readFrom_of_none hfs h hpasses hnames hplace hnone]
    · have hsame := (h place hplace).resolve_right fun hmade => hnone hmade.1
      change fs'.readAt place = fs.readAt place
      rw [readAt, readAt, hsame]
  | cons name names ih =>
    by_cases hnone : fs.node place = none
    · rw [readFrom_none hnone, readFrom_of_none hfs h hpasses hnames hplace hnone]
    · have hsame := (h place hplace).resolve_right fun hmade => hnone hmade.1
      rw [List.mem_cons, not_or] at hnames
      rw [readFrom_cons, readFrom_cons, enter_congr hsame]
      rcases henter : fs.enter place name with fault | entered
      · rfl
      · exact ih (hpasses.enter (enter_cases henter).2) hnames.2
          (notMem_of_enter hplace hnames.1 henter)

/-- So they are not by who reads a path. -/
theorem read_of_makes (hfs : fs.IsTree) (h : MakesDirectories hidden bound fs fs') {p : Path}
    (hpasses : PassesMade bound [] p) (hhidden : hidden ∉ p) : fs'.read p = fs.read p := by
  rw [read_eq, read_eq, readFrom_of_makes hfs h hpasses hhidden List.not_mem_nil]

end Making

end CatalogSync.FileSystem
