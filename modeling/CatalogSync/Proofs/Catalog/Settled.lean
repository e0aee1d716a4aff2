import CatalogSync.Proofs.Catalog.Documents

/-!
# Stale films are pending

A film is settled if the index holds the document of its aggregate, or if some change that touches
it is still ahead of the stream that will carry it. Edits keep films settled: what changes an
aggregate stamps the film or a row linked to it, and whatever is stamped anew is ahead of every
stream.
-/

namespace CatalogSync

/-- The selections by which films are scanned. -/
def filmSelections : List Selection :=
  [.related .person, .related .genre, .related .mark, .root .filmWork]

namespace Catalog

/-- Which stamped rows a stream has yet to carry, by its selection. -/
abbrev Ahead := Selection → Timestamp → String → Prop

/-- Whatever is stamped later than the catalog is ahead. -/
def Covers (c : Catalog) (ahead : Ahead) : Prop :=
  ∀ selection ∈ filmSelections, ∀ t id, c.Later t → ahead selection t id

/-- What is stamped later than the catalog. -/
def Since (c : Catalog) : Ahead := fun _ t _ => c.Later t

/-- Some change that touches the film is ahead of its stream. -/
def Pending (c : Catalog) (selections : List Selection) (ahead : Ahead) (film : String) : Prop :=
  ∃ selection ∈ selections, ∃ r, c.Joined selection r ∧ r.rootId = film ∧
    ahead selection r.timestamp r.id

/-- A film of the catalog is up to date in the index or pending. -/
def Settled (c : Catalog) (index : Index) (selections : List Selection) (ahead : Ahead)
    (film : String) : Prop :=
  (c.films.get? film).isSome → c.Holds index film ∨ c.Pending selections ahead film

section

variable {c d : Catalog} {film : String}

theorem isSome_stamp? : (c.stamp? .filmWork film).isSome = (c.films.get? film).isSome := by
  simp [stamp?]

/-- What is joined is a film of the catalog. -/
theorem Joined.isSome {selection : Selection} {r : ChangeRow} (hr : c.Joined selection r)
    (hselection : selection ∈ filmSelections) : (c.films.get? r.rootId).isSome := by
  rw [← isSome_stamp?]
  obtain ⟨hstamp, hmatch⟩ := hr
  cases selection with
  | root e =>
    obtain rfl : e = .filmWork := by simpa [filmSelections] using hselection
    rw [show r.rootId = r.id from hmatch]
    exact Option.isSome_iff_exists.2 ⟨_, hstamp⟩
  | related e =>
    obtain ⟨-, film, hfilm, -⟩ := hmatch
    exact Option.isSome_iff_exists.2 ⟨_, hfilm⟩

/-- Films stay. -/
theorem Edited.isSome (h : Edited c d) (hsome : (c.films.get? film).isSome) :
    (d.films.get? film).isSome := by
  obtain ⟨t, ht⟩ := Option.isSome_iff_exists.1 (isSome_stamp?.trans hsome)
  obtain ⟨u, hu, -⟩ := h.stamp_le ht
  rw [← isSome_stamp?, hu]
  rfl

/-- What joined a film before an edit of another film joins it still. -/
theorem Joined.putFilm {selection : Selection} {r : ChangeRow} (hr : c.Joined selection r)
    (hselection : selection ∈ filmSelections) {id : String} {row : FilmRow}
    {links : Entity → List Link}
    (hlinks : ∀ entity, (links entity).filter (·.film ≠ id) =
      (c.links entity).filter (·.film ≠ id)) (hne : r.rootId ≠ id) :
    (c.putFilm id row links).Joined selection r := by
  obtain ⟨hstamp, hmatch⟩ := hr
  cases selection with
  | root e =>
    refine ⟨?_, hmatch⟩
    have hid : r.id ≠ id := hmatch ▸ hne
    rw [stamp?_putFilm, if_neg fun h => hid h.2]
    exact hstamp
  | related e =>
    obtain ⟨⟨link, hlink, hlinkid, hlinkfilm⟩, film, hfilm, hlt⟩ := hmatch
    refine ⟨?_, ⟨link, ?_, hlinkid, hlinkfilm⟩, film, ?_, hlt⟩
    · have he : Selection.entity (.related e) ≠ .filmWork := by
        rintro rfl
        simp [filmSelections] at hselection
      rw [stamp?_putFilm, if_neg fun h => he h.1]
      exact hstamp
    · have hmem : link ∈ (c.links e).filter (·.film ≠ id) := by
        simpa [hlinkfilm, hne] using hlink
      rw [← hlinks] at hmem
      exact (List.mem_filter.1 hmem).1
    · rw [stamp?_putFilm, if_neg fun h => hne h.2]
      exact hfilm

/-- What joined a film before an edit of a row joins it still, unless it is the row itself. -/
theorem Joined.putNamed {selection : Selection} {r : ChangeRow} (hr : c.Joined selection r)
    {entity : Entity} (hentity : entity ≠ .filmWork) {id : String} {row : NamedRow}
    {links : List Link} (hlinks : links.filter (·.id ≠ id) = (c.links entity).filter (·.id ≠ id))
    (hne : ¬(selection.entity = entity ∧ r.id = id)) :
    (c.putNamed entity id row links).Joined selection r := by
  obtain ⟨hstamp, hmatch⟩ := hr
  refine ⟨by rwa [stamp?_putNamed _ _ _ hentity, if_neg hne], ?_⟩
  cases selection with
  | root e => exact hmatch
  | related e =>
    obtain ⟨⟨link, hlink, hlinkid, hlinkfilm⟩, film, hfilm, hlt⟩ := hmatch
    refine ⟨⟨link, ?_, hlinkid, hlinkfilm⟩, film, ?_, hlt⟩
    · by_cases he : e = entity
      · subst he
        have hid : r.id ≠ id := fun h => hne ⟨rfl, h⟩
        have hmem : link ∈ (c.links e).filter (·.id ≠ id) := by simpa [hlinkid, hid] using hlink
        rw [← hlinks] at hmem
        simpa [Catalog.putNamed] using (List.mem_filter.1 hmem).1
      · simpa [Catalog.putNamed, Function.update_of_ne he] using hlink
    · rw [stamp?_putNamed _ _ _ hentity, if_neg fun h => hentity h.1.symm]
      exact hfilm

variable {index : Index} {ahead : Ahead}

/-- Every edit keeps every film settled. -/
theorem Edit.settled (h : Edit c d) (hahead : c.Covers ahead)
    (hfilm : c.Settled index filmSelections ahead film) :
    d.Settled index filmSelections ahead film := by
  intro hsome
  cases h with
  | @film id row links hlater hlinks =>
    by_cases hid : film = id
    · have hmem : .root .filmWork ∈ filmSelections := by simp [filmSelections]
      refine .inr ⟨_, hmem, ⟨id, row.modified, id⟩, ⟨?_, rfl⟩, hid.symm, hahead _ hmem _ _ hlater⟩
      simp [Selection.entity, stamp?_putFilm]
    · have hrow : (c.putFilm id row links).films.get? film = c.films.get? film := by
        simp [Catalog.putFilm, hid]
      rw [hrow] at hsome
      rcases hfilm hsome with ⟨source, hsource, hindex⟩ | ⟨selection, hmem, r, hr, rfl, hr'⟩
      · exact .inl ⟨source, (filmSource?_putFilm hlinks hid).trans hsource, hindex⟩
      · exact .inr ⟨selection, hmem, r, hr.putFilm hmem hlinks hid, rfl, hr'⟩
  | @named entity id row links hentity hlater hlinks hkept =>
    have hsome : (c.films.get? film).isSome := hsome
    by_cases hlinked : (c.putNamed entity id row links).IsLinked entity id film
    · obtain ⟨t, ht⟩ := Option.isSome_iff_exists.1 (isSome_stamp?.trans hsome)
      have hmem : .related entity ∈ filmSelections := by cases entity <;> simp_all [filmSelections]
      refine .inr ⟨_, hmem, ⟨film, row.modified, id⟩, ⟨?_, hlinked, t, ?_, ?_⟩, rfl,
        hahead _ hmem _ _ hlater⟩
      · simp [Selection.entity, stamp?_putNamed _ _ _ hentity]
      · rw [stamp?_putNamed _ _ _ hentity, if_neg fun h => hentity h.1.symm]
        exact ht
      · exact hlater.2 _ _ t ht
    · have hunlinked : ∀ link ∈ links, link.id = id → link.film ≠ film :=
        fun link hlink hid hfilm =>
          hlinked ⟨link, by simpa [Catalog.putNamed] using hlink, hid, hfilm⟩
      rcases hfilm hsome with ⟨source, hsource, hindex⟩ | ⟨selection, hmem, r, hr, rfl, hr'⟩
      · exact .inl ⟨source, (filmSource?_putNamed hlinks hkept hunlinked).trans hsource, hindex⟩
      · refine .inr ⟨selection, hmem, r, hr.putNamed hentity hlinks ?_, rfl, hr'⟩
        rintro ⟨hselection, hid⟩
        cases selection with
        | root e =>
          simp [filmSelections] at hmem
          exact hentity (hselection.symm.trans hmem)
        | related e =>
          obtain ⟨link, hlink, hlinkid, hlinkfilm⟩ := hr.2.1
          cases hselection
          have hlinkid := hlinkid.trans hid
          exact hunlinked link (hkept link hlink hlinkid) hlinkid hlinkfilm

theorem Covers.edited (h : c.Covers ahead) (hedited : Edited c d) : d.Covers ahead :=
  fun selection hmem t id ht => h selection hmem t id (hedited.later ht)

/-- Edits keep every film settled. -/
theorem Edited.settled (h : Edited c d) (hahead : c.Covers ahead)
    (hfilm : c.Settled index filmSelections ahead film) :
    d.Settled index filmSelections ahead film := by
  induction h with
  | refl => exact hfilm
  | tail hedited hedit ih =>
    exact hedit.settled (hahead.edited hedited) ih

/-- A film is settled once the index holds any of its documents since the catalog was in this
state. -/
theorem Edited.settled_of_source (h : Edited c d) (hahead : c.Covers ahead) {source : Json}
    (hsource : c.filmSource? film = some source) (hindex : index film = some source) :
    d.Settled index filmSelections ahead film :=
  h.settled hahead fun _ => .inl ⟨source, hsource, hindex⟩

theorem Settled.congr {selections : List Selection} {index' : Index}
    (h : c.Settled index selections ahead film) (hindex : index' film = index film) :
    c.Settled index' selections ahead film := fun hsome =>
  (h hsome).imp_left fun ⟨source, hsource, hholds⟩ => ⟨source, hsource, hindex.trans hholds⟩

theorem Settled.mono {selections : List Selection} {ahead' : Ahead}
    (h : c.Settled index selections ahead film)
    (hahead : ∀ selection ∈ selections, ∀ t id, ahead selection t id → ahead' selection t id) :
    c.Settled index selections ahead' film := fun hsome =>
  (h hsome).imp_right fun ⟨selection, hmem, r, hr, hroot, hr'⟩ =>
    ⟨selection, hmem, r, hr, hroot, hahead _ hmem _ _ hr'⟩

/-- Nothing is pending of what was stamped since now. -/
theorem Settled.holds {selections : List Selection}
    (h : c.Settled index selections c.Since film) (hsome : (c.films.get? film).isSome) :
    c.Holds index film := by
  rcases h hsome with hholds | ⟨_, _, r, hr, -, hlater⟩
  · exact hholds
  · exact absurd (hlater.2 _ _ _ hr.1) (lt_irrefl _)

end

/-- What the streams have yet to carry that stand at these cursors. -/
def Beyond (position : Selection → Cursor) : Ahead := fun selection t id =>
  position selection < .ofRow t id

/-- The bound of the scan for a selection, when the streams stand at these cursors. -/
def boundOf (position : Selection → Cursor) (selection : Selection) : Option Cursor :=
  if selection.isRelated then some (position (.root .filmWork)) else none

section

variable {c d : Catalog} {film : String} {index index' : Index}
  {position position' : Selection → Cursor} {selection : Selection} {rest : List Selection}

/-- A row ahead of its stream is in the scan, unless its film is ahead of the root stream. -/
theorem Joined.inScan_or_beyond {r : ChangeRow} (hr : c.Joined selection r)
    (hahead : Beyond position selection r.timestamp r.id) :
    c.InScan selection (position selection) (boundOf position selection) r ∨
      selection.isRelated ∧ ∃ t, c.stamp? .filmWork r.rootId = some t ∧
        Beyond position (.root .filmWork) t r.rootId := by
  have hstart : (position selection).timestamp ≤ r.timestamp := Cursor.timestamp_le hahead.le
  by_cases hbound : ∀ bound, boundOf position selection = some bound →
      ∀ t, c.stamp? .filmWork r.rootId = some t → t ≤ bound.timestamp
  · exact .inl ⟨hr, hstart, hbound⟩
  · simp only [boundOf, not_forall, not_le] at hbound
    obtain ⟨bound, hbound, t, ht, hlt⟩ := hbound
    split at hbound
    · next hrelated =>
      cases hbound
      exact .inr ⟨hrelated, t, ht, (Cursor.lt_iff ..).2 (.inl hlt)⟩
    · cases hbound

/-- A film whose own row is ahead of the root stream is pending there. -/
theorem pending_root {selections : List Selection} (hmem : .root .filmWork ∈ selections)
    {t : Timestamp} (ht : c.stamp? .filmWork film = some t)
    (hahead : Beyond position (.root .filmWork) t film) :
    c.Pending selections (Beyond position) film :=
  ⟨_, hmem, ⟨film, t, film⟩, ⟨ht, rfl⟩, rfl, hahead⟩

/-- A worker may move its cursor on once every film of its scan is settled whatever was stamped up
to the scan: what the cursor leaves behind was in the scan, or is pending on the root stream. -/
theorem Settled.advance (hedited : Edited c d)
    (hfilm : d.Settled index filmSelections (Beyond position) film)
    (hothers : ∀ s ∈ filmSelections, s ≠ selection → position' s = position s)
    (hbehind : ∀ s ∈ filmSelections, c.Behind (position' s))
    (hscan : ∀ r, c.InScan selection (position selection) (boundOf position selection) r →
      position selection < r.cursor → d.Settled index filmSelections c.Since r.rootId) :
    d.Settled index filmSelections (Beyond position') film := by
  intro hsome
  rcases hfilm hsome with hholds | ⟨s, hmem, r, hr, rfl, hahead⟩
  · exact .inl hholds
  by_cases hs : s = selection
  · subst hs
    rcases hedited.joined_or_later hr with hr | hlater
    · rcases hr.inScan_or_beyond hahead with hin | ⟨hrelated, t, ht, hbeyond⟩
      · have hsettled := (hscan r hin hahead).mono fun s hs t id ht => hbehind s hs t id ht
        exact hsettled hsome
      · obtain ⟨u, hu, htu⟩ := hedited.stamp_le ht
        have hroot : .root .filmWork ∈ filmSelections := by simp [filmSelections]
        refine .inr (pending_root hroot hu ?_)
        have hne : .root .filmWork ≠ s := by
          rintro rfl
          cases hrelated
        unfold Beyond at hbeyond ⊢
        rw [hothers _ hroot hne]
        exact Cursor.lt_ofRow_of_le hbeyond htu
    · exact .inr ⟨s, hmem, r, hr, rfl, hbehind s hmem _ _ hlater⟩
  · refine .inr ⟨s, hmem, r, hr, rfl, ?_⟩
    unfold Beyond at hahead ⊢
    rwa [hothers s hmem hs]

/-- Over a catalog that is not edited, a film is up to date once its last selection was scanned. -/
theorem Settled.carry (hfilm : c.Settled index (selection :: rest) (Beyond position) film)
    (hroot : selection.isRelated → .root .filmWork ∈ rest)
    (hothers : ∀ s ∈ rest, position' s = position s)
    (hkept : c.Holds index film → c.Holds index' film)
    (hscan : ∀ r, c.InScan selection (position selection) (boundOf position selection) r →
      position selection < r.cursor → c.Settled index' filmSelections c.Since r.rootId) :
    c.Settled index' rest (Beyond position') film := by
  intro hsome
  have hmoved {s : Selection} (hmem : s ∈ rest) {t : Timestamp} {id : String}
      (h : Beyond position s t id) : Beyond position' s t id := by
    unfold Beyond at h ⊢
    rwa [hothers s hmem]
  rcases hfilm hsome with hholds | ⟨s, hmem, r, hr, rfl, hahead⟩
  · exact .inl (hkept hholds)
  rcases List.mem_cons.1 hmem with rfl | hmem
  · rcases hr.inScan_or_beyond hahead with hin | ⟨hrelated, t, ht, hbeyond⟩
    · exact .inl ((hscan r hin hahead).holds hsome)
    · exact .inr (pending_root (hroot hrelated) ht (hmoved (hroot hrelated) hbeyond))
  · exact .inr ⟨s, hmem, r, hr, rfl, hmoved hmem hahead⟩

end

end Catalog

end CatalogSync
