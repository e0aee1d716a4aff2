import CatalogSync.Load.Basic
import CatalogSync.Proofs.Catalog.Settled
import CatalogSync.Source.Basic
import CatalogSync.Store.Basic

/-!
# What a pass may rely on

The catalog, the index and the scan that is open are seen through a view of the world. A source
keeps its contract if every scan, and a probe while it is open, reads one snapshot of the catalog,
pages are short only at the end of a scan, and aggregates are those of some state since the
snapshot. A loader keeps its contract if it stores nothing but what it is given, and all of it when
it says so. Whatever is called, the catalog may be edited meanwhile.
-/

namespace CatalogSync

/-- What is open at a source. -/
inductive ScanState where
  | closed
  /-- A scan was asked for that has read nothing yet. -/
  | opened (selection : Selection) (start : Cursor) (root : Option Cursor)
  /-- A scan reads a snapshot, of which these rows are left. -/
  | reading (snapshot : Catalog) (rest : List ChangeRow)

/-- What is seen of a world. -/
structure View (ω : Type) where
  catalog : ω → Catalog
  scan : ω → ScanState
  index : ω → Index

/-- The rows of a scan, read from a snapshot that is taken between two moments. -/
structure View.Reads {ω : Type} (v : View ω) (w w' : ω) (selection : Selection) (start : Cursor)
    (root : Option Cursor) (snapshot : Catalog) (rows : List ChangeRow) : Prop where
  before : (v.catalog w).Edited snapshot
  after : snapshot.Edited (v.catalog w')
  isScan : snapshot.IsScan selection start root rows

/-- Nothing was stored from one moment to the next, and the catalog was only edited. -/
structure View.Steady {ω : Type} (v : View ω) (w w' : ω) : Prop where
  edited : (v.catalog w).Edited (v.catalog w')
  index : v.index w' = v.index w

variable {ω : Type}

/-- A source that reads one snapshot for a scan and its probe. -/
structure Source.KeepsContract (source : Source ω) (v : View ω) : Prop where
  steady : ∀ c w, v.Steady w (source.ask c w).2
  /-- The snapshot is taken now or when the first rows are fetched. -/
  openScan : ∀ selection start root w w',
    source.ask (.openScan selection start root) w = (.ok (), w') →
    v.scan w' = .opened selection start root ∨
      ∃ snapshot rows, v.Reads w w' selection start root snapshot rows ∧
        v.scan w' = .reading snapshot rows
  /-- A page has as many rows as were asked for, as long as there are any. -/
  fetch : ∀ count w page w', source.ask (.fetch count) w = (.ok page, w') →
    match v.scan w with
    | .closed => True
    | .opened selection start root =>
      ∃ snapshot rows, v.Reads w w' selection start root snapshot rows ∧
        page = rows.take count ∧ v.scan w' = .reading snapshot (rows.drop count)
    | .reading snapshot rest =>
      page = rest.take count ∧ v.scan w' = .reading snapshot (rest.drop count)
  /-- The probe reads what the scan reads. -/
  probe : ∀ entity w greatest w', source.ask (.probe entity) w = (.ok greatest, w') →
    v.scan w' = v.scan w ∧
      ∀ snapshot rest, v.scan w = .reading snapshot rest → snapshot.IsGreatest entity greatest
  /-- Aggregates are those of the snapshot or of some later state. -/
  enrich : ∀ ids w docs w', source.ask (.enrich .filmWork ids) w = (.ok docs, w') →
    v.scan w' = v.scan w ∧ ∀ snapshot rest, v.scan w = .reading snapshot rest →
      snapshot.Edited (v.catalog w) →
      ∃ c, snapshot.Edited c ∧ c.Edited (v.catalog w') ∧ c.AreFilmDocuments ids docs

/-- A loader that stores what it is given, and all of it when it answers so. -/
structure Loader.KeepsContract (loader : Loader ω) (v : View ω) : Prop where
  steady : ∀ batch w, (v.catalog w).Edited (v.catalog (loader.write batch w).2) ∧
    v.scan (loader.write batch w).2 = v.scan w
  /-- Under each id stands what stood there, or a source that the batch has for it. -/
  stores : ∀ batch w id, v.index (loader.write batch w).2 id = v.index w id ∨
    ∃ source, ⟨id, source⟩ ∈ batch ∧ v.index (loader.write batch w).2 id = some source
  /-- A batch that is accepted in full has been stored. -/
  accepts : ∀ batch w result w', loader.write batch w = (.ok result, w') → result.IsVerified →
    ∀ entry ∈ batch, ∃ source, ⟨entry.id, source⟩ ∈ batch ∧ v.index w' entry.id = some source

/-- A store whose commits leave the index alone. -/
def Store.KeepsContract (store : Store ω) (v : View ω) : Prop :=
  ∀ m w, v.Steady w (store.commit m w).2

namespace View

variable (v : View ω)

/-- The catalog was only edited from one moment to the next, and every film stays settled, whatever
is stamped later than the base being ahead. -/
structure Follows (base : Catalog) (w w' : ω) : Prop where
  edited : (v.catalog w).Edited (v.catalog w')
  settled : ∀ ahead film, base.Covers ahead →
    (v.catalog w).Settled (v.index w) filmSelections ahead film →
    (v.catalog w').Settled (v.index w') filmSelections ahead film

variable {v} {base base' : Catalog} {w w' w'' : ω}

theorem Steady.refl (v : View ω) (w : ω) : v.Steady w w := ⟨.refl, rfl⟩

theorem Steady.trans (h : v.Steady w w') (h' : v.Steady w' w'') : v.Steady w w'' where
  edited := h.edited.trans h'.edited
  index := h'.index.trans h.index

theorem Follows.refl (v : View ω) (base : Catalog) (w : ω) : v.Follows base w w :=
  ⟨.refl, fun _ _ _ h => h⟩

theorem Follows.trans (h : v.Follows base w w') (h' : v.Follows base w' w'') :
    v.Follows base w w'' where
  edited := h.edited.trans h'.edited
  settled ahead film hahead hfilm :=
    h'.settled ahead film hahead (h.settled ahead film hahead hfilm)

/-- More is stamped later than an earlier base. -/
theorem Follows.of_base (h : v.Follows base' w w') (hbase : base.Edited base') :
    v.Follows base w w' where
  edited := h.edited
  settled ahead film hahead := h.settled ahead film (hahead.edited hbase)

/-- What is stored keeps films settled if it was read since the base. -/
theorem Follows.of_stored (hbase : base.Edited (v.catalog w))
    (hedited : (v.catalog w).Edited (v.catalog w'))
    (hstored : ∀ id, v.index w' id = v.index w id ∨ ∃ source c, v.index w' id = some source ∧
      base.Edited c ∧ c.Edited (v.catalog w') ∧ c.filmSource? id = some source) :
    v.Follows base w w' where
  edited := hedited
  settled ahead film hahead hfilm := by
    rcases hstored film with hindex | ⟨source, c, hindex, hbefore, hafter, hsource⟩
    · exact (hedited.settled (hahead.edited hbase) hfilm).congr hindex
    · exact hafter.settled_of_source (hahead.edited hbefore) hsource hindex

theorem Steady.follows (h : v.Steady w w') (hbase : base.Edited (v.catalog w)) :
    v.Follows base w w' :=
  .of_stored hbase h.edited fun id => .inl (congrFun h.index id)

/-- Where nothing was edited, what the index held it holds. -/
theorem Follows.holds (h : v.Follows (v.catalog w) w w') (hcatalog : v.catalog w' = v.catalog w)
    {film : String} (hfilm : (v.catalog w).Holds (v.index w) film) :
    (v.catalog w).Holds (v.index w') film := by
  have hsettled := h.settled (v.catalog w).Since film (fun _ _ _ _ ht => ht) fun _ => .inl hfilm
  obtain ⟨source, hsource, -⟩ := hfilm
  rw [hcatalog] at hsettled
  exact hsettled.holds (Catalog.isSome_of_source hsource)

end View

end CatalogSync
