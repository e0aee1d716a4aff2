import CatalogSync.Catalog.Entity

/-!
# Catalog queries

The statements sent to the catalog's database. A scan takes the timestamp to start from as `$1`;
a related scan also takes the latest change of a film that it may return as `$2`, with NULL for no
bound. An enrichment takes the wanted ids and returns one JSON document for each that is found.
-/

namespace CatalogSync.Query

/-- The short name of a table inside a statement. -/
def shortName : Entity → String
  | .filmWork => "fw"
  | .person => "p"
  | .genre => "g"
  | .mark => "m"

/-- The rows of a table from `$1` on, in the order of their changes. -/
def scanRoot (entity : Entity) : String :=
  let a := shortName entity
  s!"
    SELECT {a}.id::text AS root_id,
           {a}.modified,
           {a}.id::text AS id
    FROM content.{entity.name} {a}
    WHERE {a}.modified >= $1
    ORDER BY {a}.modified, {a}.id"

/-- The films linked to the rows of a table from `$1` on that are older than the linked row and no
later than `$2`. -/
def scanRelated (entity : Entity) : String :=
  let a := shortName entity
  s!"
    SELECT fw.id::text AS root_id,
           {a}.modified,
           {a}.id::text AS id
    FROM content.{entity.name} {a}
    JOIN content.{entity.name}_film_work {a}fw ON {a}fw.{entity.name}_id = {a}.id
    JOIN content.film_work fw ON fw.id = {a}fw.film_work_id
    WHERE {a}.modified >= $1
      AND fw.modified < {a}.modified
      AND ($2::timestamptz IS NULL OR fw.modified <= $2)
    ORDER BY {a}.modified, {a}.id, fw.id"

/-- Whether the catalog has the change stream: marks are only followed through their films, and
films are not linked to films. -/
def hasScan : Selection → Bool
  | .root .mark => false
  | .related .filmWork => false
  | _ => true

/-- The statement that selects the rows of a scan. -/
def scan : Selection → String
  | .root e => scanRoot e
  | .related e => scanRelated e

/-- The statement of a scan, if the catalog has the stream. -/
def scan? (selection : Selection) : Option String :=
  if hasScan selection then some (scan selection) else none

/-- The latest row of a table. -/
def probe (entity : Entity) : String :=
  "SELECT modified, id::text AS id FROM content." ++ entity.name ++
    " ORDER BY modified DESC, id DESC LIMIT 1"

def enrichFilms : String := "
    SELECT jsonb_build_object(
               'id', fw.id,
               'title', fw.title,
               'description', fw.description,
               'rating', fw.rating,
               'age_limit', fw.age_limit,
               'type', fw.type,
               'modified', fw.modified,
               'persons', COALESCE(
                   json_agg(DISTINCT jsonb_build_object('role', pfw.role, 'id', p.id, 'name', p.full_name))
                       FILTER (WHERE p.id IS NOT NULL),
                   '[]'),
               'genres', COALESCE(
                   json_agg(DISTINCT jsonb_build_object('id', g.id, 'name', g.name))
                       FILTER (WHERE g.id IS NOT NULL),
                   '[]'),
               'marks', COALESCE(
                   json_agg(DISTINCT jsonb_build_object('id', m.id, 'name', m.name))
                       FILTER (WHERE m.id IS NOT NULL),
                   '[]')
           ) AS doc
    FROM content.film_work fw
    LEFT JOIN content.person_film_work pfw ON pfw.film_work_id = fw.id
    LEFT JOIN content.person p ON p.id = pfw.person_id
    LEFT JOIN content.genre_film_work gfw ON gfw.film_work_id = fw.id
    LEFT JOIN content.genre g ON g.id = gfw.genre_id
    LEFT JOIN content.mark_film_work mfw ON mfw.film_work_id = fw.id
    LEFT JOIN content.mark m ON m.id = mfw.mark_id
    WHERE fw.id = ANY($1::text[]::uuid[])
    GROUP BY fw.id
    ORDER BY fw.id"

def enrichPersons : String := "
    SELECT jsonb_build_object(
               'id', t.id,
               'full_name', t.full_name,
               'modified', t.modified,
               'movies', COALESCE(
                   json_agg(jsonb_build_object('role', t.role, 'movies', t.movies))
                       FILTER (WHERE t.role IS NOT NULL),
                   '[]')
           ) AS doc
    FROM (
        SELECT p.id,
               p.full_name,
               p.modified,
               pfw.role,
               json_agg(jsonb_build_object('id', fw.id, 'title', fw.title)) AS movies
        FROM content.person p
        LEFT JOIN content.person_film_work pfw ON pfw.person_id = p.id
        LEFT JOIN content.film_work fw ON fw.id = pfw.film_work_id
        WHERE p.id = ANY($1::text[]::uuid[])
        GROUP BY p.id, pfw.role
    ) t
    GROUP BY t.id, t.full_name, t.modified
    ORDER BY t.id"

def enrichGenres : String := "
    SELECT jsonb_build_object(
               'id', g.id,
               'name', g.name,
               'modified', g.modified
           ) AS doc
    FROM content.genre g
    WHERE g.id = ANY($1::text[]::uuid[])
    ORDER BY g.id"

/-- The statement that rebuilds aggregates by id. -/
def enrich : Aggregate → String
  | .filmWork => enrichFilms
  | .person => enrichPersons
  | .genre => enrichGenres

end CatalogSync.Query
