import CatalogSync.Proofs.Catalog.Tables
import Mathlib.Data.List.Basic
import Mathlib.Logic.Function.Basic
import Mathlib.Logic.Relation

/-!
# Edits of a catalog

An edit inserts or changes one row and stamps it later than everything before. Links are added
with a row at one of their ends and removed only with their film. What a later state of the catalog
holds was therefore there before, or bears a later stamp.
-/

namespace CatalogSync

/-- Lists that agree on the elements that matter give the same results. -/
theorem filterMap_eq_of_filter_eq {α β : Type} {p : α → Bool} {f g : α → Option β} {l l' : List α}
    (h : l.filter p = l'.filter p) (hl : ∀ a ∈ l, f a = if p a then g a else none)
    (hl' : ∀ a ∈ l', g a = if p a then g a else none) : l.filterMap f = l'.filterMap g := by
  rw [List.filterMap_congr hl, List.filterMap_congr hl', ← List.filterMap_filter,
    ← List.filterMap_filter, h]

namespace Catalog

/-- The catalog with a film put in, and with other links. -/
def putFilm (c : Catalog) (id : String) (row : FilmRow) (links : Entity → List Link) : Catalog :=
  { c with films := c.films.insert id row, links }

/-- The catalog with a person, genre or mark put in, and with other links of that kind. -/
def putNamed (c : Catalog) (entity : Entity) (id : String) (row : NamedRow) (links : List Link) :
    Catalog where
  films := c.films
  named := Function.update c.named entity ((c.named entity).insert id row)
  links := Function.update c.links entity links

/-- One edit of the catalog. -/
inductive Edit (c : Catalog) : Catalog → Prop where
  /-- A film is put in; links are added to it or removed from it. -/
  | film {id : String} {row : FilmRow} {links : Entity → List Link} (hlater : c.Later row.modified)
      (hlinks : ∀ entity, (links entity).filter (·.film ≠ id) =
        (c.links entity).filter (·.film ≠ id)) : Edit c (c.putFilm id row links)
  /-- A person, genre or mark is put in; links are added to it. -/
  | named {entity : Entity} {id : String} {row : NamedRow} {links : List Link}
      (hentity : entity ≠ .filmWork) (hlater : c.Later row.modified)
      (hlinks : links.filter (·.id ≠ id) = (c.links entity).filter (·.id ≠ id))
      (hkept : ∀ link ∈ c.links entity, link.id = id → link ∈ links) :
    Edit c (c.putNamed entity id row links)

/-- The catalog after any number of edits. -/
abbrev Edited : Catalog → Catalog → Prop := Relation.ReflTransGen Edit

section

variable (c : Catalog) (id other : String)

theorem stamp?_putFilm (row : FilmRow) (links : Entity → List Link) (entity : Entity) :
    (c.putFilm id row links).stamp? entity other =
      if entity = .filmWork ∧ other = id then some row.modified else c.stamp? entity other := by
  cases entity <;> simp only [stamp?, putFilm, NameMap.get?_insert] <;> split_ifs <;> simp_all

theorem stamp?_putNamed {entity : Entity} (hentity : entity ≠ .filmWork) (row : NamedRow)
    (links : List Link) (e : Entity) :
    (c.putNamed entity id row links).stamp? e other =
      if e = entity ∧ other = id then some row.modified else c.stamp? e other := by
  by_cases he : e = entity
  · subst he
    cases e <;> simp_all [stamp?, putNamed] <;> split_ifs <;> simp_all
  · cases e <;> simp_all [stamp?, putNamed, Function.update_of_ne]

end

/-- From one state to the next, one row is stamped later than everything before, and links are only
added at that row. -/
structure Touches (c d : Catalog) (entity : Entity) (id : String) (t : Timestamp) : Prop where
  later : c.Later t
  touched : d.stamp? entity id = some t
  others : ∀ e other, ¬(e = entity ∧ other = id) → d.stamp? e other = c.stamp? e other
  linked : ∀ e other film, d.IsLinked e other film → c.IsLinked e other film ∨
    (e = entity ∧ other = id) ∨ (entity = .filmWork ∧ film = id)

theorem Edit.touches {c d : Catalog} (h : Edit c d) : ∃ entity id t, Touches c d entity id t := by
  cases h with
  | @film id row links hlater hlinks =>
    refine ⟨.filmWork, id, row.modified, hlater, by simp [stamp?_putFilm], ?_, ?_⟩
    · intro e other hne
      rw [stamp?_putFilm, if_neg hne]
    · rintro e other film ⟨link, hlink, rfl, rfl⟩
      by_cases hfilm : link.film = id
      · exact .inr (.inr ⟨rfl, hfilm⟩)
      · have hmem : link ∈ (links e).filter (·.film ≠ id) := by
          simpa [putFilm, hfilm] using hlink
        rw [hlinks] at hmem
        exact .inl ⟨link, (List.mem_filter.1 hmem).1, rfl, rfl⟩
  | @named entity id row links hentity hlater hlinks hkept =>
    refine ⟨entity, id, row.modified, hlater, by simp [stamp?_putNamed _ _ _ hentity], ?_, ?_⟩
    · intro e other hne
      rw [stamp?_putNamed _ _ _ hentity, if_neg hne]
    · rintro e other film ⟨link, hlink, rfl, rfl⟩
      by_cases he : e = entity
      · subst he
        by_cases hid : link.id = id
        · exact .inr (.inl ⟨rfl, hid⟩)
        · have hlink : link ∈ links := by simpa [putNamed] using hlink
          have hmem : link ∈ links.filter (·.id ≠ id) := by simpa [hid] using hlink
          rw [hlinks] at hmem
          exact .inl ⟨link, (List.mem_filter.1 hmem).1, rfl, rfl⟩
      · have hlink : link ∈ c.links e := by simpa [putNamed, Function.update_of_ne he] using hlink
        exact .inl ⟨link, hlink, rfl, rfl⟩

section

variable {c d x : Catalog} {entity : Entity} {id : String} {t : Timestamp}

theorem Touches.later_of_later (h : Touches c d entity id t) {u : Timestamp} (hu : d.Later u) :
    c.Later u := by
  refine ⟨hu.1, fun e other s hs => ?_⟩
  by_cases htouched : e = entity ∧ other = id
  · obtain ⟨rfl, rfl⟩ := htouched
    exact (h.later.2 _ _ s hs).trans (hu.2 _ _ t h.touched)
  · rw [← h.others e other htouched] at hs
    exact hu.2 e other s hs

/-- What is later than an edited catalog is later than it was before. -/
theorem Edited.later (h : Edited c d) {u : Timestamp} (hu : d.Later u) : c.Later u := by
  induction h with
  | refl => exact hu
  | tail _ hedit ih =>
    obtain ⟨_, _, _, htouches⟩ := hedit.touches
    exact ih (htouches.later_of_later hu)

/-- A stamp was there before the edits, or is later. -/
theorem Edited.stamp_or_later (h : Edited c d) (ht : d.stamp? entity id = some t) :
    c.stamp? entity id = some t ∨ c.Later t := by
  induction h generalizing t with
  | refl => exact .inl ht
  | tail hedited hedit ih =>
    obtain ⟨e, other, u, htouches⟩ := hedit.touches
    by_cases htouched : entity = e ∧ id = other
    · obtain ⟨rfl, rfl⟩ := htouched
      rw [htouches.touched] at ht
      cases ht
      exact .inr (Edited.later hedited htouches.later)
    · rw [htouches.others _ _ htouched] at ht
      exact ih ht

/-- Rows stay, and their stamps do not go back. -/
theorem Edited.stamp_le (h : Edited c d) (ht : c.stamp? entity id = some t) :
    ∃ u, d.stamp? entity id = some u ∧ t ≤ u := by
  induction h with
  | refl => exact ⟨t, ht, le_refl t⟩
  | tail _ hedit ih =>
    obtain ⟨u, hu, htu⟩ := ih
    obtain ⟨e, other, v, htouches⟩ := hedit.touches
    by_cases htouched : entity = e ∧ id = other
    · obtain ⟨rfl, rfl⟩ := htouched
      exact ⟨v, htouches.touched, htu.trans (htouches.later.2 _ _ u hu).le⟩
    · exact ⟨u, (htouches.others _ _ htouched).trans hu, htu⟩

/-- A link was there before the edits, or one of its ends bears a later stamp. -/
theorem Edited.linked_or_later (h : Edited c d) {film : String}
    (hlink : d.IsLinked entity id film) :
    c.IsLinked entity id film ∨ (∃ t, d.stamp? entity id = some t ∧ c.Later t) ∨
      ∃ t, d.stamp? .filmWork film = some t ∧ c.Later t := by
  induction h with
  | refl => exact .inl hlink
  | @tail x d hedited hedit ih =>
    obtain ⟨e, other, u, htouches⟩ := hedit.touches
    have hu : c.Later u := Edited.later hedited htouches.later
    have hstays {e' : Entity} {id' : String} (h' : ∃ t, x.stamp? e' id' = some t ∧ c.Later t) :
        ∃ t, d.stamp? e' id' = some t ∧ c.Later t := by
      by_cases htouched : e' = e ∧ id' = other
      · obtain ⟨rfl, rfl⟩ := htouched
        exact ⟨u, htouches.touched, hu⟩
      · obtain ⟨t, ht, hlater⟩ := h'
        exact ⟨t, (htouches.others _ _ htouched).trans ht, hlater⟩
    rcases htouches.linked _ _ _ hlink with hlink | ⟨rfl, rfl⟩ | ⟨rfl, rfl⟩
    · rcases ih hlink with hlink | hnamed | hfilm
      · exact .inl hlink
      · exact .inr (.inl (hstays hnamed))
      · exact .inr (.inr (hstays hfilm))
    · exact .inr (.inl ⟨u, htouches.touched, hu⟩)
    · exact .inr (.inr ⟨u, htouches.touched, hu⟩)

/-- What a selection joins was joined before the edits, or bears a later stamp. -/
theorem Edited.joined_or_later (h : Edited c d) {selection : Selection} {r : ChangeRow}
    (hr : d.Joined selection r) : c.Joined selection r ∨ c.Later r.timestamp := by
  obtain ⟨hstamp, hmatch⟩ := hr
  rcases h.stamp_or_later hstamp with hstamp' | hlater
  · cases selection with
    | root e => exact .inl ⟨hstamp', hmatch⟩
    | related e =>
      obtain ⟨hlinked, film, hfilm, hlt⟩ := hmatch
      have hold : ¬c.Later film := fun hlater => hlt.not_gt (hlater.2 _ _ _ hstamp')
      have hfilm' := (h.stamp_or_later hfilm).resolve_right hold
      rcases h.linked_or_later hlinked with hlinked | ⟨t, ht, hlater⟩ | ⟨t, ht, hlater⟩
      · exact .inl ⟨hstamp', hlinked, film, hfilm', hlt⟩
      · rw [show d.stamp? e r.id = some r.timestamp from hstamp] at ht
        cases ht
        exact .inr hlater
      · rw [hfilm] at ht
        cases ht
        exact absurd hlater hold
  · exact .inr hlater

/-- A catalog that is edited does not become again what it was. -/
theorem Edited.antisymm (hcd : Edited c d) (hdc : Edited d c) : c = d := by
  rcases Relation.ReflTransGen.cases_head hcd with rfl | ⟨x, hedit, hxd⟩
  · rfl
  · obtain ⟨e, other, t, htouches⟩ := hedit.touches
    obtain ⟨u, hu, htu⟩ := Edited.stamp_le (hxd.trans hdc) htouches.touched
    exact absurd (htouches.later.2 _ _ u hu) htu.not_gt

end

/-- The cursor stands before every row that an edit stamps. -/
def Behind (c : Catalog) (cursor : Cursor) : Prop := ∀ t id, c.Later t → cursor < .ofRow t id

theorem Behind.edited {c d : Catalog} {cursor : Cursor} (h : c.Behind cursor) (hcd : Edited c d) :
    d.Behind cursor := fun t id ht => h t id (hcd.later ht)

theorem behind_initial (c : Catalog) : c.Behind .initial :=
  fun _ id ht => Cursor.initial_lt_ofRow ht.1 id

/-- A cursor at a row of the catalog stands before every row that is stamped later. -/
theorem behind_ofRow {c : Catalog} {entity : Entity} {id : String} {t : Timestamp}
    (h : c.stamp? entity id = some t) : c.Behind (.ofRow t id) :=
  fun _ _ hu => (Cursor.lt_iff ..).2 (.inl (hu.2 entity id t h))

end Catalog

end CatalogSync
