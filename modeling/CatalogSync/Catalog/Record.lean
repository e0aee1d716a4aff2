import CatalogSync.Json.Decode
import CatalogSync.Timestamp.Printer
import CatalogSync.Timestamp.Reader
import CatalogSync.Cursor.Basic

/-!
# Records

What the catalog says about one film, person or genre, with everything linked to it. A record is
decoded from the JSON object that the catalog builds for it, and can be written back.
-/

namespace CatalogSync

/-- What a person did for a film. -/
inductive Role where
  | actor
  | writer
  | director
  /-- Any other role; it is not listed in documents. -/
  | other
  deriving DecidableEq, Repr

namespace Role

def name : Role → String
  | actor => "actor"
  | writer => "writer"
  | director => "director"
  | other => "other"

/-- The role of a name; names without a role of their own are `other`. -/
def ofName (s : String) : Role :=
  if s = "actor" then actor else if s = "writer" then writer
  else if s = "director" then director else other

/-- A role is spelled as its name, or as an object whose one member is its name with `null`. -/
def decode : Decoder Role
  | .str s => .ok (ofName s)
  | .obj [(name, .null)] => .ok (ofName name)
  | .obj [(_, j)] => .error (.wrongType j "unit")
  | .obj members => .error (.outOfRange (.obj members) "map with a single key")
  | j => .error (.wrongType j "string or map")

end Role

/-- The id and name of something linked. -/
structure NamedRef where
  id : String
  name : String
  deriving DecidableEq, Repr

def NamedRef.decode : Decoder NamedRef :=
  Fields.decode "NamedRef" <|
    NamedRef.mk <$> .required "id" .string <*> .required "name" .string

def NamedRef.toJson (r : NamedRef) : Json := .obj [("id", .str r.id), ("name", .str r.name)]

/-- A person in a role. -/
structure Credit where
  id : String
  name : String
  role : Role
  deriving DecidableEq, Repr

def Credit.decode : Decoder Credit :=
  Fields.decode "RolePerson" <|
    Credit.mk <$> .required "id" .string <*> .required "name" .string
      <*> .required "role" Role.decode

def Credit.toJson (c : Credit) : Json :=
  .obj [("id", .str c.id), ("name", .str c.name), ("role", .str c.role.name)]

def Credit.toRef (c : Credit) : NamedRef := ⟨c.id, c.name⟩

/-- A film as its catalog row and links tell it. -/
structure FilmRecord where
  id : String
  title : String
  description : Option String
  rating : Option Float
  ageLimit : Option Int
  kind : String
  modified : Timestamp
  persons : List Credit
  genres : List NamedRef
  marks : List NamedRef

def FilmRecord.decode : Decoder FilmRecord :=
  Fields.decode "FilmWorkRecord" <|
    FilmRecord.mk <$> .required "id" .string <*> .required "title" .string
      <*> .defaulted "description" (.optional .string) none
      <*> .defaulted "rating" (.optional .float) none
      <*> .defaulted "age_limit" (.optional .int32) none
      <*> .required "type" .string <*> .required "modified" Timestamp.decode
      <*> .defaulted "persons" (.list Credit.decode) []
      <*> .defaulted "genres" (.list NamedRef.decode) []
      <*> .defaulted "marks" (.list NamedRef.decode) []

/-- An optional value, `null` if there is none. -/
def optionToJson {α : Type} (f : α → Json) : Option α → Json
  | some a => f a
  | none => .null

def FilmRecord.toJson (r : FilmRecord) : Json :=
  .object [("id", .str r.id), ("title", .str r.title),
    ("description", optionToJson .str r.description), ("rating", optionToJson .float r.rating),
    ("age_limit", optionToJson .int r.ageLimit), ("type", .str r.kind),
    ("modified", .str r.modified.text), ("persons", .arr (r.persons.map Credit.toJson)),
    ("genres", .arr (r.genres.map NamedRef.toJson)), ("marks", .arr (r.marks.map NamedRef.toJson))]

/-- A film a person took part in. -/
structure MovieRef where
  id : String
  title : String
  deriving DecidableEq, Repr

def MovieRef.decode : Decoder MovieRef :=
  Fields.decode "MovieRef" <|
    MovieRef.mk <$> .required "id" .string <*> .required "title" .string

def MovieRef.toJson (m : MovieRef) : Json := .obj [("id", .str m.id), ("title", .str m.title)]

/-- The films a person took part in under one role. -/
structure RoleMovies where
  role : String
  movies : List MovieRef
  deriving DecidableEq, Repr

def RoleMovies.decode : Decoder RoleMovies :=
  Fields.decode "RoleMovies" <|
    RoleMovies.mk <$> .required "role" .string <*> .required "movies" (.list MovieRef.decode)

def RoleMovies.toJson (m : RoleMovies) : Json :=
  .obj [("movies", .arr (m.movies.map MovieRef.toJson)), ("role", .str m.role)]

structure PersonRecord where
  id : String
  fullName : String
  modified : Timestamp
  movies : List RoleMovies

def PersonRecord.decode : Decoder PersonRecord :=
  Fields.decode "PersonRecord" <|
    PersonRecord.mk <$> .required "id" .string <*> .required "full_name" .string
      <*> .required "modified" Timestamp.decode
      <*> .defaulted "movies" (.list RoleMovies.decode) []

def PersonRecord.toJson (r : PersonRecord) : Json :=
  .object [("id", .str r.id), ("full_name", .str r.fullName), ("modified", .str r.modified.text),
    ("movies", .arr (r.movies.map RoleMovies.toJson))]

structure GenreRecord where
  id : String
  name : String
  modified : Timestamp

def GenreRecord.decode : Decoder GenreRecord :=
  Fields.decode "GenreRecord" <|
    GenreRecord.mk <$> .required "id" .string <*> .required "name" .string
      <*> .required "modified" Timestamp.decode

def GenreRecord.toJson (r : GenreRecord) : Json :=
  .object [("id", .str r.id), ("name", .str r.name), ("modified", .str r.modified.text)]

end CatalogSync
