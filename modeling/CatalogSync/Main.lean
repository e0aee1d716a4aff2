import CatalogSync.Daemon.Help
import CatalogSync.Daemon.Process
import CatalogSync.Source.Relational
import CatalogSync.Store.CursorFile
import CatalogSync.Text.Utf8

/-!
# The program

Gathers the arguments, the environment and the files they name, carries out the command, and prints
what comes of it. It opens no network connections: every server counts as one that is not there.
-/

namespace CatalogSync

/-- The files of the process and its database client. -/
structure ProcessWorld where
  files : FileSystem
  client : DatabaseClient

/-- Steps that a process may take before it is given up. -/
def stepAllowance : Nat := 1000000

/-- What the process reaches: its files. -/
def processSurroundings : Surroundings ProcessWorld where
  source address policy :=
    (RelationalSource.source ⟨address, policy⟩ Database.unreachable stepAllowance).within
      (fun w => ⟨w.client, w⟩) fun s _ => { s.world with client := s.client }
  client := .unreachable
  store path := (CursorFile.store (Path.ofText path)).within ProcessWorld.files
    fun files w => { w with files }
  clock := ⟨fun _ => 0, fun _ => false, fun _ w => (false, w), fun _ w => w⟩

/-- Bytes cut at zeros. -/
def cutAtZeros (bytes : List UInt8) : List (List UInt8) :=
  bytes.foldr (fun b parts =>
    match parts with
    | part :: rest => if b = 0 then [] :: part :: rest else (b :: part) :: rest
    | [] => []) [[]]

/-- The variables of an environment block. -/
def variablesOfBlock (block : ByteArray) : List (String × String) :=
  (cutAtZeros block.toList).filterMap fun entry =>
    let text := (Text.Utf8.lossy ⟨entry.toArray⟩).toList
    match text.dropWhile (· ≠ '=') with
    | _ :: value => some (String.ofList (text.takeWhile (· ≠ '=')), String.ofList value)
    | [] => none

/-- What is at a path. -/
def nodeAt (path : String) : IO (Option Node) := do
  try
    return some (.file (← IO.FS.readBinFile path))
  catch
    | .noFileOrDirectory .. => return none
    | _ => return some .directory

/-- The text of the file at a path, if there is one. -/
def textAt (path : String) : IO (Option String) := do
  match ← nodeAt path with
  | some (.file bytes) => return String.fromUTF8? bytes
  | _ => return none

/-- The texts of the files of some names. -/
def textsAt (names : List String) : IO (List (String × String)) := do
  let found ← names.mapM fun name => return (name, ← textAt name)
  return found.filterMap fun (name, text) => text.map (name, ·)

/-- The files of a process whose cursors are kept at a path. -/
def filesWith (path : String) : IO FileSystem := do
  match ← nodeAt path with
  | some (.file bytes) => return FileSystem.empty.place (Path.ofText path) bytes
  | some .directory =>
    match FileSystem.empty.createDirectories (Path.ofText path) with
    | .ok files => return files
    | .error _ => return .empty
  | none => return .empty

/-- Carry out a command. -/
def carryOut (i : Invocation) : IO UInt32 := do
  let environment := variablesOfBlock (← IO.FS.readBinFile "/proc/self/environ")
  let dirs := UserDirs.ofVariables environment
  let stems := dirs.settingsFile :: i.config.toList
  let names := stems.flatMap fun stem =>
    stem :: SettingsFormat.all.map fun format => stem ++ format.ending
  let texts ← textsAt names
  let sources :=
    SettingsSources.find (fun name => texts.lookup name) dirs environment i.config i.logLevel
  let files ← match sources.load dirs with
    | .ok s => filesWith (s.cursorFilePath dirs)
    | .error _ => pure .empty
  match processSurroundings.start dirs stepAllowance sources i.command ⟨files, .fresh⟩ with
  | (.ok text, _) =>
    IO.print text
    return 0
  | (.error e, _) =>
    IO.eprint e.report
    return 1
  | (.unfinished, _) => return 1

end CatalogSync

open CatalogSync in
def main (args : List String) : IO UInt32 := do
  match CommandLine.parse (programName :: args) with
  | .ok i => carryOut i
  | .error e =>
    IO.print e.output.1
    IO.eprint e.output.2
    return e.exitCode.toUInt32
