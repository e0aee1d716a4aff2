import CatalogSync.Json.Parser
import CatalogSync.Json.Printer
import CatalogSync.Store.Basic
import CatalogSync.Store.FileSystem

/-!
# The cursor file

The cursor map as one JSON file. A commit writes a temporary file beside the target and renames it
over the target as its last step, so that whoever reads the target finds the old map or the new
one. A file that cannot be understood counts as no map at all.
-/

namespace CatalogSync.CursorFile

/-- The text of a map: an indented object and a final newline. -/
def text (m : CursorMap) : String := m.toJson.indented ++ "\n"

/-- The map that a text spells. Every member has to be a cursor or `null`. -/
def ofText? (s : String) : Option CursorMap := do
  let j ← Json.read? s.toList
  match CursorMap.decode j with
  | .ok m => some m
  | .error _ => none

/-- The map in the bytes of a file; what cannot be understood is the empty map. -/
def ofBytes (bytes : ByteArray) : CursorMap :=
  ((String.fromUTF8? bytes).bind ofText?).getD .empty

/-- One thing a commit does to the file system. -/
inductive Step where
  /-- Ask whether a path can be a directory. -/
  | admitDirectory (path : Path)
  | createDirectory (path : Path)
  | createFile (path : Path)
  | append (path : Path) (text : String)
  /-- Wait until the content is on disk. -/
  | sync (path : Path)
  | rename (source target : Path)

def Step.run (fs : FileSystem) : Step → Except FileFault FileSystem
  | admitDirectory p => (fs.admitDirectory p).map fun _ => fs
  | createDirectory p => fs.createDirectory p
  | createFile p => fs.createFile p
  | append p text => fs.append p text.toUTF8
  | sync _ => .ok fs
  | rename source target => fs.rename source target

/-- What a commit does, in order: first the directories that the target is in, then the content of
the temporary file, and the rename last. -/
def commitSteps (target temporary : Path) (m : CursorMap) : List Step :=
  .admitDirectory target.parent :: target.parent.prefixes.map .createDirectory ++
    [.createFile temporary, .append temporary m.toJson.indented, .append temporary "\n",
      .sync temporary, .rename temporary target]

/-- Run steps up to the first that fails: its fault, and what was done before it. -/
def runSteps : FileSystem → List Step → Option FileFault × FileSystem
  | fs, [] => (none, fs)
  | fs, step :: rest =>
    match step.run fs with
    | .ok fs => runSteps fs rest
    | .error fault => (some fault, fs)

/-- Replace the map in a file. The temporary file is removed when a step fails. -/
def commit (target : Path) (m : CursorMap) (fs : FileSystem) :
    Except StateError Unit × FileSystem :=
  let temporary := target.parent ++ [fs.freshName target]
  match runSteps fs (commitSteps target temporary m) with
  | (none, fs) => (.ok (), fs)
  | (some fault, fs) => (.error (.io fault.message), fs.unlink temporary)

/-- The map in a file; a missing file holds the empty map. -/
def load (target : Path) (fs : FileSystem) : Except StateError CursorMap :=
  match fs.read target with
  | .ok bytes => .ok (ofBytes bytes)
  | .error .notFound => .ok .empty
  | .error fault => .error (.io fault.message)

/-- The store that keeps its map in a file. -/
def store (target : Path) : Store FileSystem := ⟨load target, commit target⟩

end CatalogSync.CursorFile
