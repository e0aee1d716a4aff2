import CatalogSync.Catalog.Record

/-!
# Documents

What the search index stores of a film, a person or a genre. A document is addressed by its id;
only films also store it.
-/

namespace CatalogSync

/-- A document on its way to an index: its id and its encoded source, or why it cannot be
encoded. -/
structure Document where
  id : String
  source : Except String Json

structure FilmDocument where
  id : String
  kind : String
  ageLimit : Int
  title : String
  description : String
  rating : Float
  genres : List NamedRef
  genreNames : List String
  marks : List String
  actors : List NamedRef
  writers : List NamedRef
  directors : List NamedRef
  actorNames : List String
  writerNames : List String
  directorNames : List String

namespace FilmDocument

def textsToJson (texts : List String) : Json := .arr (texts.map .str)

def refsToJson (refs : List NamedRef) : Json := .arr (refs.map NamedRef.toJson)

/-- The number of a JSON field; a double that is not finite is no JSON number. -/
def numberToJson (x : Float) : Json := if x.isFinite then .float x else .null

/-- The stored source. People and genres are stored as references and once more by name alone. -/
def toJson (d : FilmDocument) : Json :=
  .object [("id", .str d.id), ("fw_type", .str d.kind), ("rars_rating", .int d.ageLimit),
    ("title", .str d.title), ("description", .str d.description),
    ("imdb_rating", numberToJson d.rating), ("genres", refsToJson d.genres),
    ("genre", textsToJson d.genreNames), ("mark", textsToJson d.marks),
    ("actors", refsToJson d.actors), ("writers", refsToJson d.writers),
    ("directors", refsToJson d.directors), ("actors_names", textsToJson d.actorNames),
    ("writers_names", textsToJson d.writerNames),
    ("directors_names", textsToJson d.directorNames)]

def toDocument (d : FilmDocument) : Document := ⟨d.id, .ok d.toJson⟩

end FilmDocument

structure PersonDocument where
  id : String
  fullName : String
  movies : List RoleMovies

namespace PersonDocument

def toJson (d : PersonDocument) : Json :=
  .object [("full_name", .str d.fullName), ("movies", .arr (d.movies.map RoleMovies.toJson))]

def toDocument (d : PersonDocument) : Document := ⟨d.id, .ok d.toJson⟩

end PersonDocument

structure GenreDocument where
  id : String
  name : String

namespace GenreDocument

def toJson (d : GenreDocument) : Json := .object [("name", .str d.name)]

def toDocument (d : GenreDocument) : Document := ⟨d.id, .ok d.toJson⟩

end GenreDocument

end CatalogSync
