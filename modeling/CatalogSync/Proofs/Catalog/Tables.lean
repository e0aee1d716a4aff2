import CatalogSync.Catalog.Record
import CatalogSync.NameMap
import CatalogSync.Proofs.Order

/-!
# Catalogs

The tables that the pipelines follow, and what is read from them: the rows of a scan, the greatest
row of a table, and the aggregate of a film. A film is linked to persons, genres and marks; their
rows carry a name and the time of their last change.
-/

namespace CatalogSync

/-- A row of the film table, apart from its id. -/
structure FilmRow where
  title : String
  description : Option String
  rating : Option Float
  ageLimit : Option Int
  kind : String
  modified : Timestamp

/-- A row of a person, genre or mark table, apart from its id. -/
structure NamedRow where
  name : String
  modified : Timestamp
  deriving DecidableEq

/-- A link between a named row and a film; only links to persons have a role that is read. -/
structure Link where
  id : String
  film : String
  role : String
  deriving DecidableEq

/-- The tables of a catalog. Films are no named rows, and nothing is linked as one. -/
structure Catalog where
  films : NameMap FilmRow
  named : Entity → NameMap NamedRow
  links : Entity → List Link

namespace Catalog

variable (c : Catalog)

/-- When a row was last changed, if the table has it. -/
def stamp? (entity : Entity) (id : String) : Option Timestamp :=
  match entity with
  | .filmWork => (c.films.get? id).map FilmRow.modified
  | other => ((c.named other).get? id).map NamedRow.modified

/-- The moment comes after every change of the catalog. -/
def Later (t : Timestamp) : Prop :=
  Timestamp.first ≤ t ∧ ∀ entity id s, c.stamp? entity id = some s → s < t

/-- Every row was changed in the years that a timestamp of the catalog can have. -/
def WellStamped : Prop := ∀ entity id s, c.stamp? entity id = some s → Timestamp.first ≤ s

def IsLinked (entity : Entity) (id film : String) : Prop :=
  ∃ link ∈ c.links entity, link.id = id ∧ link.film = film

/-- The tables hold the row for a selection: a row of the table itself, or a changed row with a film
linked to it that is older than the change. -/
def Joined (selection : Selection) (r : ChangeRow) : Prop :=
  c.stamp? selection.entity r.id = some r.timestamp ∧
    match selection with
    | .root _ => r.rootId = r.id
    | .related entity => c.IsLinked entity r.id r.rootId ∧
      ∃ film, c.stamp? .filmWork r.rootId = some film ∧ film < r.timestamp

/-- A scan holds the row: it is at or after the start, and its root was not changed after the
bound. -/
def InScan (selection : Selection) (start : Cursor) (root : Option Cursor) (r : ChangeRow) : Prop :=
  c.Joined selection r ∧ start.timestamp ≤ r.timestamp ∧
    ∀ bound, root = some bound → ∀ film, c.stamp? .filmWork r.rootId = some film →
      film ≤ bound.timestamp

/-- The rows of a scan, in their order; a row may be repeated. -/
structure IsScan (selection : Selection) (start : Cursor) (root : Option Cursor)
    (rows : List ChangeRow) : Prop where
  mem_iff : ∀ r, r ∈ rows ↔ c.InScan selection start root r
  ascending : rows.Pairwise fun a b => a.order b ≠ .gt

/-- The cursor of the greatest row of a table, if it has any. -/
def IsGreatest (entity : Entity) : Option Cursor → Prop
  | some g => (∃ t id, c.stamp? entity id = some t ∧ g = .ofRow t id) ∧
    ∀ t id, c.stamp? entity id = some t → .ofRow t id ≤ g
  | none => ∀ id, c.stamp? entity id = none

/-- The rows of a table that are linked to a film, each once and by their ids. -/
def linkedTo (entity : Entity) (film : String) : NameMap NamedRow :=
  .ofList <| (c.links entity).filterMap fun link =>
    if link.film = film then ((c.named entity).get? link.id).map fun row => (link.id, row)
    else none

/-- The roles of a person in a film, each once. -/
def rolesIn (film person : String) : List String :=
  (NameMap.ofList <| (c.links .person).filterMap fun link =>
    if link.film = film ∧ link.id = person then some (link.role, ()) else none).keys

/-- The persons of a film with their roles. -/
def creditsJson (film : String) : Json :=
  .arr <| (c.linkedTo .person film).entries.flatMap fun (id, row) =>
    (c.rolesIn film id).map fun role =>
      .object [("role", .str role), ("id", .str id), ("name", .str row.name)]

/-- The genres or marks of a film. -/
def namesJson (entity : Entity) (film : String) : Json :=
  .arr <| (c.linkedTo entity film).entries.map fun (id, row) =>
    .object [("id", .str id), ("name", .str row.name)]

/-- The aggregate of a film, if the film is there. -/
def filmDocument (id : String) : Option Json :=
  (c.films.get? id).map fun film =>
    .object [("id", .str id), ("title", .str film.title),
      ("description", optionToJson .str film.description),
      ("rating", optionToJson .float film.rating),
      ("age_limit", optionToJson .int film.ageLimit), ("type", .str film.kind),
      ("modified", .str film.modified.text), ("persons", c.creditsJson id),
      ("genres", c.namesJson .genre id), ("marks", c.namesJson .mark id)]

/-- The aggregates of the films that are found under some ids. -/
structure AreFilmDocuments (ids : List String) (docs : List Json) : Prop where
  sound : ∀ doc ∈ docs, ∃ id ∈ ids, c.filmDocument id = some doc
  complete : ∀ id ∈ ids, ∀ doc, c.filmDocument id = some doc → doc ∈ docs

end Catalog

end CatalogSync
