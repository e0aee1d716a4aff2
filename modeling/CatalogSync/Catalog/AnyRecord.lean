import CatalogSync.Catalog.Transform

/-!
# Records of any kind

A film, a person or a genre, for those who handle all of them alike.
-/

namespace CatalogSync

inductive RecordKind where
  | film
  | person
  | genre
  deriving DecidableEq, Repr

inductive AnyRecord where
  | film (record : FilmRecord)
  | person (record : PersonRecord)
  | genre (record : GenreRecord)

namespace AnyRecord

def decode : RecordKind → Decoder AnyRecord
  | .film => fun j => film <$> FilmRecord.decode j
  | .person => fun j => person <$> PersonRecord.decode j
  | .genre => fun j => genre <$> GenreRecord.decode j

def toJson : AnyRecord → Json
  | film r => r.toJson
  | person r => r.toJson
  | genre r => r.toJson

/-- The document of a record. -/
def transform : AnyRecord → Except TransformError Document
  | film r => FilmDocument.toDocument <$> r.transform
  | person r => PersonDocument.toDocument <$> r.transform
  | genre r => GenreDocument.toDocument <$> r.transform

/-- The record with another rating, if it is of a film. -/
def withRating (rating : Float) : AnyRecord → AnyRecord
  | film r => film { r with rating := some rating }
  | r => r

end AnyRecord

end CatalogSync
