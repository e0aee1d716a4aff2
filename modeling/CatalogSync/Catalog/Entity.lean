/-!
# What the catalog holds

The tables whose rows are stamped when they change, the aggregates that are rebuilt from them, and
the change streams that a scan can follow.
-/

namespace CatalogSync

/-- A table whose rows carry the time of their last change. -/
inductive Entity where
  | filmWork
  | person
  | genre
  | mark
  deriving DecidableEq, Repr

namespace Entity

def name : Entity → String
  | filmWork => "film_work"
  | person => "person"
  | genre => "genre"
  | mark => "mark"

/-- Every entity. -/
def all : List Entity := [filmWork, person, genre, mark]

def ofName? (s : String) : Option Entity := all.find? (·.name = s)

end Entity

/-- Which rows a scan follows. -/
inductive Selection where
  /-- The rows of a table itself. -/
  | root (entity : Entity)
  /-- The films linked to changed rows of a table that are themselves older than the change. -/
  | related (entity : Entity)
  deriving DecidableEq, Repr

namespace Selection

/-- The table whose changes drive the scan. -/
def entity : Selection → Entity
  | root e => e
  | related e => e

def isRelated : Selection → Bool
  | root _ => false
  | related _ => true

def display : Selection → String
  | root e => e.name
  | related e => s!"film_work<-{e.name}"

/-- Every selection that can be named. -/
def all : List Selection := Entity.all.map root ++ Entity.all.map related

def ofDisplay? (s : String) : Option Selection := all.find? (·.display = s)

end Selection

/-- What can be rebuilt by the id of its root row. -/
inductive Aggregate where
  | filmWork
  | person
  | genre
  deriving DecidableEq, Repr

def Aggregate.name : Aggregate → String
  | filmWork => "film_work"
  | person => "person"
  | genre => "genre"

end CatalogSync
