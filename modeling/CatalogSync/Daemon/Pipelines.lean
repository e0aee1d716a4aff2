import CatalogSync.Catalog.Transform
import CatalogSync.Load.BulkIndex
import CatalogSync.Schedule.Scheduler
import CatalogSync.Settings.Basic

/-!
# The pipelines of a catalog

Films, persons and genres each go into an index of their own. Films are also loaded again when a
person, a genre or a mark that they are linked to changes; these changes are handled first.
-/

namespace CatalogSync

/-- The document of a record as a pipeline wants it. -/
def passDocument {δ : Type} (toDocument : δ → Document) :
    Except TransformError δ → Except PipelineError Document
  | .ok d => .ok (toDocument d)
  | .error e => .error (.transform e.message)

/-- The pipelines over one catalog. -/
structure CatalogPipelines (ω : Type) where
  movies : Pipeline ω FilmRecord
  persons : Pipeline ω PersonRecord
  genres : Pipeline ω GenreRecord

namespace CatalogPipelines

variable {φ ω : Type} [Growth φ]

/-- The index of a name as the settings describe it. -/
def indexNamed (s : Settings) (name : String) (policy : Policy φ) : BulkIndex φ :=
  .ofUrl s.destination.url name s.destination.batchSize policy

/-- The workers that load films, those over related tables first. -/
def movieWorkers (s : StreamSettings) : List WorkerSpec :=
  [.related s.filmWorkPerson .person, .related s.filmWorkGenre .genre,
    .related s.filmWorkMark .mark, .root s.filmWork .filmWork]

/-- The pipelines that the settings describe; writes are retried under the policy. -/
def ofSettings (s : Settings) (policy : Policy φ) (client : Http.Client ω) (allowance : Nat) :
    CatalogPipelines ω where
  movies := {
    name := "movies"
    aggregate := .filmWork
    workers := movieWorkers s.streams
    decode := FilmRecord.decode
    transform := fun r => passDocument FilmDocument.toDocument r.transform
    loader := (indexNamed s s.indexes.movies policy).loader client allowance
    pageSize := s.source.batchSize }
  persons := {
    name := "persons"
    aggregate := .person
    workers := [.root s.streams.person .person]
    decode := PersonRecord.decode
    transform := fun r => passDocument PersonDocument.toDocument r.transform
    loader := (indexNamed s s.indexes.persons policy).loader client allowance
    pageSize := s.source.batchSize }
  genres := {
    name := "genres"
    aggregate := .genre
    workers := [.root s.streams.genre .genre]
    decode := GenreRecord.decode
    transform := fun r => passDocument GenreDocument.toDocument r.transform
    loader := (indexNamed s s.indexes.genres policy).loader client allowance
    pageSize := s.source.batchSize }

/-- The pipelines as jobs, in the order of a cycle. -/
def jobs (p : CatalogPipelines ω) (source : Source ω) (store : Store ω) (allowance : Nat) :
    List (Job ω) :=
  [p.movies.job source store allowance, p.persons.job source store allowance,
    p.genres.job source store allowance]

end CatalogPipelines

end CatalogSync
