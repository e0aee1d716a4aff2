import CatalogSync.Catalog.Document
import CatalogSync.Decimal.Binary
import CatalogSync.Text.Blank

/-!
# From records to documents

A record becomes a document unless its id is blank or its rating is not a number. People are
listed by role, missing scalars take neutral values, and a rating is rounded to one decimal.
-/

namespace CatalogSync

/-- Why a record has no document. -/
inductive TransformError where
  | blankId (kind : String)
  | ratingNotANumber (film : String)
  deriving DecidableEq, Repr

def TransformError.message : TransformError → String
  | blankId kind => s!"{kind} record without id"
  | ratingNotANumber film => s!"film work {film}: rating is not a number"

/-- One decimal, halves away from zero, computed in doubles. -/
def roundToTenth (x : Float) : Float := Decimal.roundHalfAway (x * 10) / 10

/-- The rating a document stores, or `none` if the record's rating is not a finite number. -/
def documentRating? : Option Float → Option Float
  | none => some 0
  | some x => if x.isFinite then some (roundToTenth x) else none

/-- The people of a film by their roles. -/
structure Cast where
  actors : List NamedRef
  writers : List NamedRef
  directors : List NamedRef

namespace Cast

def empty : Cast := ⟨[], [], []⟩

/-- Put a person at the end of the list for their role, if there is one. -/
def add (c : Cast) (person : Credit) : Cast :=
  match person.role with
  | .actor => { c with actors := c.actors ++ [person.toRef] }
  | .writer => { c with writers := c.writers ++ [person.toRef] }
  | .director => { c with directors := c.directors ++ [person.toRef] }
  | .other => c

end Cast

/-- The cast of a film, one person after the other in the order of the record. -/
def FilmRecord.cast (r : FilmRecord) : Cast := r.persons.foldl Cast.add .empty

def NamedRef.names (refs : List NamedRef) : List String := refs.map NamedRef.name

def FilmRecord.transform (r : FilmRecord) : Except TransformError FilmDocument :=
  if Text.IsBlank r.id then .error (.blankId "film work")
  else
    match documentRating? r.rating with
    | none => .error (.ratingNotANumber r.id)
    | some rating =>
      .ok {
        id := r.id
        kind := r.kind
        ageLimit := r.ageLimit.getD 0
        title := r.title
        description := r.description.getD ""
        rating
        genres := r.genres
        genreNames := NamedRef.names r.genres
        marks := NamedRef.names r.marks
        actors := r.cast.actors
        writers := r.cast.writers
        directors := r.cast.directors
        actorNames := NamedRef.names r.cast.actors
        writerNames := NamedRef.names r.cast.writers
        directorNames := NamedRef.names r.cast.directors }

def PersonRecord.transform (r : PersonRecord) : Except TransformError PersonDocument :=
  if Text.IsBlank r.id then .error (.blankId "person") else .ok ⟨r.id, r.fullName, r.movies⟩

def GenreRecord.transform (r : GenreRecord) : Except TransformError GenreDocument :=
  if Text.IsBlank r.id then .error (.blankId "genre") else .ok ⟨r.id, r.name⟩

end CatalogSync
