import CatalogSync.Json.Decode
import CatalogSync.Retry.Backoff

/-!
# Settings

What a process can be told: where the catalog and the indexes are, how much is read and written at
once, how failures are retried, and under which names the cursors are kept. Every setting has a
default.
-/

namespace CatalogSync

/-- Where the catalog is and how it is paged. -/
structure SourceSettings where
  dsn : String := "postgres://app@localhost:5432/movies_database"
  /-- Rows per page. -/
  batchSize : Nat := 500

/-- Where the indexes are and how much is sent to them at once. -/
structure DestinationSettings where
  url : String := "http://localhost:9200"
  /-- Documents per bulk request. -/
  batchSize : Nat := 1000
  timeoutSecs : Nat := 30

/-- The names of the indexes. -/
structure IndexSettings where
  movies : String := "movies"
  persons : String := "persons"
  genres : String := "genres"

structure SchedulerSettings where
  /-- The pause between two cycles. -/
  sleepSecs : Nat := 60

structure StateSettings where
  /-- The file that holds the cursors. -/
  cursorFile : String

/-- How network operations are retried. -/
structure RetrySettings where
  /-- The first pause. -/
  startMs : Nat := 100
  /-- By how much each pause is longer than the one before. -/
  factor : Float := 2
  /-- No pause is longer than this. -/
  borderSecs : Nat := 30
  /-- Failed attempts before an operation is given up, if ever. -/
  maxAttempts : Option Nat := none

structure StartupSettings where
  /-- Failed checks before the process gives up. -/
  maxAttempts : Nat := 5

/-- The names under which the cursors of the streams are kept. -/
structure StreamSettings where
  filmWork : String := "film_work"
  filmWorkPerson : String := "film_work.person"
  filmWorkGenre : String := "film_work.genre"
  filmWorkMark : String := "film_work.mark"
  person : String := "person"
  genre : String := "genre"

/-- Every name, in the order of the settings. -/
def StreamSettings.names (s : StreamSettings) : List String :=
  [s.filmWork, s.filmWorkPerson, s.filmWorkGenre, s.filmWorkMark, s.person, s.genre]

structure Settings where
  logLevel : String := "info"
  source : SourceSettings := {}
  destination : DestinationSettings := {}
  indexes : IndexSettings := {}
  scheduler : SchedulerSettings := {}
  state : StateSettings
  retry : RetrySettings := {}
  startup : StartupSettings := {}
  streams : StreamSettings := {}

/-- The pause between two cycles. -/
def SchedulerSettings.interval (s : SchedulerSettings) : Span := .ofSeconds s.sleepSecs

/-- The retry policy that the settings describe. -/
def RetrySettings.policy (s : RetrySettings) : Policy Float :=
  ⟨.ofMillis s.startMs, s.factor, .ofSeconds s.borderSecs, s.maxAttempts⟩

/-- The policy of the checks before the first cycle. -/
def Settings.startupPolicy (s : Settings) : Policy Float :=
  { s.retry.policy with maxAttempts := some s.startup.maxAttempts }

/-- The directories of the user that the process runs for. -/
structure UserDirs where
  home : String
  /-- Where programs keep the files that configure them. -/
  config : String
  /-- Where programs keep their data. -/
  data : String

/-- The directories of a user who has not moved them from their usual places. -/
def UserDirs.ofHome (home : String) : UserDirs :=
  ⟨home, home ++ "/.config", home ++ "/.local/share"⟩

/-- The name of a path that is taken relative to a directory. -/
def joinPath (directory path : String) : String :=
  if path.startsWith "/" then path
  else if directory.endsWith "/" then directory ++ path
  else directory ++ "/" ++ path

/-- The cursor file that is used when none is named. -/
def UserDirs.cursorFile (dirs : UserDirs) : String :=
  joinPath (joinPath dirs.data "movies-etl") "cursors.json"

/-- The settings file that is looked for when none is named; its ending tells the format. -/
def UserDirs.settingsFile (dirs : UserDirs) : String :=
  joinPath (joinPath dirs.config "movies-etl") "config"

def Settings.standard (dirs : UserDirs) : Settings := { state := ⟨dirs.cursorFile⟩ }

/-- The path of the cursor file. A leading `~/` stands for the home directory. -/
def Settings.cursorFilePath (s : Settings) (dirs : UserDirs) : String :=
  match s.state.cursorFile.toList with
  | '~' :: '/' :: rest => joinPath dirs.home (String.ofList rest)
  | _ => s.state.cursorFile

/-! ## Reading -/

/-- How the values of settings are read from data: as they are, or coerced to what is wanted. -/
structure Reading where
  string : Decoder String
  float : Decoder Float
  /-- A whole number from zero to a bound. -/
  natural : (type : String) → (high : Nat) → Decoder Nat
  record : {α : Type} → (type : String) → Fields α → Decoder α

/-- Every value has to be of its type already. -/
def Reading.strict : Reading := ⟨.string, .float, .natural, Fields.decode⟩

namespace Reading

variable (r : Reading)

def count : Decoder Nat := r.natural "usize" (Nat.pow 2 64 - 1)

def nat32 : Decoder Nat := r.natural "u32" (Nat.pow 2 32 - 1)

def nat64 : Decoder Nat := r.natural "u64" (Nat.pow 2 64 - 1)

def source : Decoder SourceSettings :=
  let d : SourceSettings := {}
  r.record "SourceSettings" <|
    SourceSettings.mk <$> .defaulted "dsn" r.string d.dsn
      <*> .defaulted "batch_size" r.count d.batchSize

def destination : Decoder DestinationSettings :=
  let d : DestinationSettings := {}
  r.record "DestinationSettings" <|
    DestinationSettings.mk <$> .defaulted "url" r.string d.url
      <*> .defaulted "batch_size" r.count d.batchSize
      <*> .defaulted "timeout_secs" r.nat64 d.timeoutSecs

def indexes : Decoder IndexSettings :=
  let d : IndexSettings := {}
  r.record "IndexSettings" <|
    IndexSettings.mk <$> .defaulted "movies" r.string d.movies
      <*> .defaulted "persons" r.string d.persons <*> .defaulted "genres" r.string d.genres

/-- The scheduler's settings, under the name they have in messages. -/
def scheduler (type : String) : Decoder SchedulerSettings :=
  let d : SchedulerSettings := {}
  r.record type <| SchedulerSettings.mk <$> .defaulted "sleep_secs" r.nat64 d.sleepSecs

def state (dirs : UserDirs) : Decoder StateSettings :=
  r.record "StateSettings" <| StateSettings.mk <$> .defaulted "cursor_file" r.string dirs.cursorFile

def retry : Decoder RetrySettings :=
  let d : RetrySettings := {}
  r.record "RetrySettings" <|
    RetrySettings.mk <$> .defaulted "start_ms" r.nat64 d.startMs
      <*> .defaulted "factor" r.float d.factor
      <*> .defaulted "border_secs" r.nat64 d.borderSecs
      <*> .defaulted "max_attempts" (.optional r.nat32) d.maxAttempts

def startup : Decoder StartupSettings :=
  let d : StartupSettings := {}
  r.record "StartupSettings" <|
    StartupSettings.mk <$> .defaulted "max_attempts" r.nat32 d.maxAttempts

def streams : Decoder StreamSettings :=
  let d : StreamSettings := {}
  r.record "StreamSettings" <|
    StreamSettings.mk <$> .defaulted "film_work" r.string d.filmWork
      <*> .defaulted "film_work_person" r.string d.filmWorkPerson
      <*> .defaulted "film_work_genre" r.string d.filmWorkGenre
      <*> .defaulted "film_work_mark" r.string d.filmWorkMark
      <*> .defaulted "person" r.string d.person <*> .defaulted "genre" r.string d.genre

/-- All settings; what is missing takes its default. -/
def settings (dirs : UserDirs) : Decoder Settings :=
  let d := Settings.standard dirs
  r.record "Settings" <|
    Settings.mk <$> .defaulted "log_level" r.string d.logLevel
      <*> .defaulted "source" r.source d.source
      <*> .defaulted "destination" r.destination d.destination
      <*> .defaulted "indexes" r.indexes d.indexes
      <*> .defaulted "scheduler" (r.scheduler "SchedulerSettings") d.scheduler
      <*> .defaulted "state" (r.state dirs) d.state <*> .defaulted "retry" r.retry d.retry
      <*> .defaulted "startup" r.startup d.startup <*> .defaulted "streams" r.streams d.streams

end Reading

/-! ## Writing -/

/-- The settings as data, the way they are read. -/
def Settings.toJson (s : Settings) : Json :=
  .object [
    ("log_level", .str s.logLevel),
    ("source", .object [("dsn", .str s.source.dsn), ("batch_size", .int s.source.batchSize)]),
    ("destination", .object [("url", .str s.destination.url),
      ("batch_size", .int s.destination.batchSize),
      ("timeout_secs", .int s.destination.timeoutSecs)]),
    ("indexes", .object [("movies", .str s.indexes.movies), ("persons", .str s.indexes.persons),
      ("genres", .str s.indexes.genres)]),
    ("scheduler", .object [("sleep_secs", .int s.scheduler.sleepSecs)]),
    ("state", .object [("cursor_file", .str s.state.cursorFile)]),
    ("retry", .object [("start_ms", .int s.retry.startMs), ("factor", .float s.retry.factor),
      ("border_secs", .int s.retry.borderSecs),
      ("max_attempts", match s.retry.maxAttempts with | some n => .int n | none => .null)]),
    ("startup", .object [("max_attempts", .int s.startup.maxAttempts)]),
    ("streams", .object [("film_work", .str s.streams.filmWork),
      ("film_work_person", .str s.streams.filmWorkPerson),
      ("film_work_genre", .str s.streams.filmWorkGenre),
      ("film_work_mark", .str s.streams.filmWorkMark), ("person", .str s.streams.person),
      ("genre", .str s.streams.genre)])]

end CatalogSync
