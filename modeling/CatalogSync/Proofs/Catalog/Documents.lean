import CatalogSync.Catalog.Transform
import CatalogSync.Proofs.Catalog.Edits

/-!
# The documents of a catalog

What the index is to store for a film: its aggregate, decoded and transformed. The record of an
aggregate has the id of its film, and an edit changes the documents only of the films it touches.
-/

namespace CatalogSync

/-- What an index stores under each id. -/
abbrev Index := String → Option Json

namespace Fields

variable {α β : Type} {find : String → Option Json}

/-- What is said of a record that two fields in a row build needs the first alone, if the second may
be anything. -/
theorem forall_build_seq {f : Fields (α → β)} {x : Fields α} {P : β → Prop}
    (h : ∀ g, f.build find = .ok g → ∀ a, P (g a)) : ∀ b, (f <*> x).build find = .ok b → P b := by
  intro b hb
  change (do return (← f.build find) (← x.build find)) = _ at hb
  cases hf : f.build find with
  | error e =>
    rw [hf] at hb
    cases hb
  | ok g =>
    cases hx : x.build find with
    | error e =>
      rw [hf, hx] at hb
      cases hb
    | ok a =>
      rw [hf, hx] at hb
      cases hb
      exact h g hf a

theorem forall_build_map {f : α → β} {x : Fields α} {P : β → Prop}
    (h : ∀ a, x.build find = .ok a → P (f a)) : ∀ b, (f <$> x).build find = .ok b → P b := by
  intro b hb
  change (do return f (← x.build find)) = _ at hb
  cases hx : x.build find with
  | error e =>
    rw [hx] at hb
    cases hb
  | ok a =>
    rw [hx] at hb
    cases hb
    exact h a hx

/-- What is decoded from an object is built from its members. -/
theorem build_of_decode {type : String} {fields : Fields α} {members : List (String × Json)} {a : α}
    (h : fields.decode type (.obj members) = .ok a) :
    fields.build (fun name => members.lookup name) = .ok a := by
  simp only [decode] at h
  cases hchecked : checkMembers fields.checks members with
  | error e =>
    rw [hchecked] at h
    cases h
  | ok _ =>
    rw [hchecked] at h
    exact h

/-- A text that has to be there is read from the member of its name. -/
theorem find_of_required {name s : String} (h : (required name .string).build find = .ok s) :
    find name = some (.str s) := by
  simp only [required] at h
  split at h
  · next j hfind =>
    cases j <;> cases h
    exact hfind
  · cases h

end Fields

theorem FilmRecord.lookup_id {members : List (String × Json)} (record : FilmRecord)
    (h : FilmRecord.decode (.obj members) = .ok record) :
    members.lookup "id" = some (.str record.id) := by
  replace h := Fields.build_of_decode h
  revert record
  iterate 9 refine Fields.forall_build_seq ?_
  exact Fields.forall_build_map fun id hid _ _ _ _ _ _ _ _ _ => Fields.find_of_required hid

/-- A document has the id of its record. -/
theorem FilmRecord.transform_id {record : FilmRecord} {document : FilmDocument}
    (h : record.transform = .ok document) : document.id = record.id := by
  unfold FilmRecord.transform at h
  split at h
  · cases h
  · split at h
    · cases h
    · cases h
      rfl

/-- A member is found under its name in an ordered object, of several the last. -/
theorem Json.lookup_insertMember (name other : String) (value : Json)
    (members : List (String × Json)) :
    (insertMember name value members).lookup other =
      if other = name then some value else members.lookup other := by
  have h : insertMember name value members = NameMap.insertEntry name value members := by
    induction members with
    | nil => rfl
    | cons m rest ih => simp only [insertMember, NameMap.insertEntry, ih]
  rw [h, NameMap.lookup_insertEntry]

theorem ok_of_toOption {ε α : Type} {r : Except ε α} {a : α} (h : r.toOption = some a) :
    r = .ok a := by
  cases r with
  | error e => cases h
  | ok b =>
    cases h
    rfl

/-- If all elements are answered, the answers are theirs position by position. -/
theorem forall₂_of_mapM {ε α β : Type} {f : α → Except ε β} {l : List α} {l' : List β}
    (h : l.mapM f = .ok l') : List.Forall₂ (fun a b => f a = .ok b) l l' := by
  induction l generalizing l' with
  | nil =>
    cases h
    exact .nil
  | cons a rest ih =>
    rw [List.mapM_cons] at h
    cases ha : f a with
    | error e =>
      rw [ha] at h
      cases h
    | ok b =>
      cases hrest : rest.mapM f with
      | error e =>
        rw [ha, hrest] at h
        cases h
      | ok bs =>
        rw [ha, hrest] at h
        cases h
        exact .cons ha (ih hrest)

/-- If all elements are answered, the answers are those of the elements. -/
theorem mem_of_mapM {ε α β : Type} {f : α → Except ε β} {l : List α} {l' : List β}
    (h : l.mapM f = .ok l') :
    (∀ b ∈ l', ∃ a ∈ l, f a = .ok b) ∧ ∀ a ∈ l, ∃ b ∈ l', f a = .ok b := by
  have hall := forall₂_of_mapM h
  clear h
  induction hall with
  | nil => simp
  | cons hb _ ih =>
    simp only [List.mem_cons, forall_eq_or_imp, exists_eq_or_imp, hb, true_or, true_and]
    exact ⟨fun b hb => .inr (ih.1 b hb), fun a ha => .inr (ih.2 a ha)⟩

namespace Catalog

/-- The record of a film, if its aggregate is shaped as one. -/
def filmRecord? (c : Catalog) (film : String) : Option FilmRecord := do
  let doc ← c.filmDocument film
  (FilmRecord.decode doc).toOption

/-- The source that the index is to store for a film, if its record has a document. -/
def filmSource? (c : Catalog) (film : String) : Option Json := do
  let record ← c.filmRecord? film
  let document ← record.transform.toOption
  return document.toJson

/-- The index holds the document of the film's current aggregate. -/
def Holds (c : Catalog) (index : Index) (film : String) : Prop :=
  ∃ source, c.filmSource? film = some source ∧ index film = some source

variable {c d : Catalog} {film : String}

/-- The record of a film has its id. -/
theorem filmRecord?_id {record : FilmRecord} (h : c.filmRecord? film = some record) :
    record.id = film := by
  simp only [filmRecord?, filmDocument] at h
  cases hrow : c.films.get? film with
  | none => simp [hrow] at h
  | some row =>
    simp only [hrow, Option.map_some, Option.bind_eq_bind, Option.bind_some] at h
    have hid := FilmRecord.lookup_id record (ok_of_toOption h)
    simp [Json.sortMembers, Json.lookup_insertMember] at hid
    exact hid.symm

/-- The records of some aggregates are those of the films that are found. -/
theorem AreFilmDocuments.records {ids : List String} {docs : List Json} {records : List FilmRecord}
    (h : c.AreFilmDocuments ids docs) (hrecords : docs.mapM FilmRecord.decode = .ok records) :
    (∀ record ∈ records, c.filmRecord? record.id = some record) ∧
      ∀ film ∈ ids, (c.films.get? film).isSome → ∃ record ∈ records, record.id = film := by
  have hall := mem_of_mapM hrecords
  refine ⟨fun record hrecord => ?_, fun film hfilm hsome => ?_⟩
  · obtain ⟨doc, hdoc, hdecode⟩ := hall.1 record hrecord
    obtain ⟨film, -, hdocument⟩ := h.sound doc hdoc
    have hfound : c.filmRecord? film = some record := by
      rw [filmRecord?, hdocument]
      simp [hdecode, Except.toOption]
    rwa [filmRecord?_id hfound]
  · obtain ⟨row, hrow⟩ := Option.isSome_iff_exists.1 hsome
    obtain ⟨doc, hdocument⟩ : ∃ doc, c.filmDocument film = some doc := by
      rw [filmDocument, hrow]
      exact ⟨_, rfl⟩
    obtain ⟨record, hrecord, hdecode⟩ := hall.2 doc (h.complete film hfilm doc hdocument)
    refine ⟨record, hrecord, filmRecord?_id (c := c) ?_⟩
    rw [filmRecord?, hdocument]
    simp [hdecode, Except.toOption]

/-- A film's document is read from its row, the rows linked to it, and its roles. -/
theorem filmSource?_congr (hrow : d.films.get? film = c.films.get? film)
    (hlinked : ∀ entity, d.linkedTo entity film = c.linkedTo entity film)
    (hroles : ∀ person, d.rolesIn film person = c.rolesIn film person) :
    d.filmSource? film = c.filmSource? film := by
  simp only [filmSource?, filmRecord?, filmDocument, creditsJson, namesJson, hrow, hlinked, hroles]

/-- An edit of another film leaves the links of this one alone. -/
theorem filmSource?_putFilm {id : String} {row : FilmRow} {links : Entity → List Link}
    (hlinks : ∀ entity, (links entity).filter (·.film ≠ id) =
      (c.links entity).filter (·.film ≠ id)) (hne : film ≠ id) :
    (c.putFilm id row links).filmSource? film = c.filmSource? film := by
  refine filmSource?_congr (by simp [putFilm, hne]) (fun entity => ?_) fun person => ?_
  · refine congrArg _ (filterMap_eq_of_filter_eq (hlinks entity) ?_ ?_)
    all_goals
      intro link _
      by_cases hlink : link.film = film <;> simp [putFilm, hlink, hne]
  · refine congrArg (fun l => (NameMap.ofList l).keys)
      (filterMap_eq_of_filter_eq (hlinks .person) ?_ ?_)
    all_goals
      intro link _
      by_cases hlink : link.film = film <;> simp [hlink, hne]

/-- An edit of a row leaves a film alone that is not linked to it. -/
theorem filmSource?_putNamed {entity : Entity} {id : String} {row : NamedRow} {links : List Link}
    (hlinks : links.filter (·.id ≠ id) = (c.links entity).filter (·.id ≠ id))
    (hkept : ∀ link ∈ c.links entity, link.id = id → link ∈ links)
    (hunlinked : ∀ link ∈ links, link.id = id → link.film ≠ film) :
    (c.putNamed entity id row links).filmSource? film = c.filmSource? film := by
  have hbefore : ∀ link ∈ c.links entity, link.id = id → link.film ≠ film :=
    fun link hlink hid => hunlinked link (hkept link hlink hid) hid
  refine filmSource?_congr rfl (fun e => ?_) fun person => ?_
  · by_cases he : e = entity
    · subst he
      simp only [linkedTo, putNamed, Function.update_self]
      refine congrArg _ (filterMap_eq_of_filter_eq hlinks ?_ ?_)
      all_goals
        intro link hlink
        by_cases hid : link.id = id
        · simp_all
        · simp [hid]
    · simp only [linkedTo, putNamed, Function.update_of_ne he]
  · by_cases he : .person = entity
    · subst he
      simp only [rolesIn, putNamed, Function.update_self]
      refine congrArg (fun l => (NameMap.ofList l).keys) (filterMap_eq_of_filter_eq hlinks ?_ ?_)
      all_goals
        intro link hlink
        by_cases hid : link.id = id
        · simp_all
        · simp [hid]
    · simp only [rolesIn, putNamed, Function.update_of_ne he]

/-- Only films of the catalog have a document. -/
theorem isSome_of_source {source : Json} (h : c.filmSource? film = some source) :
    (c.films.get? film).isSome := by
  by_contra hnone
  have hdocument : c.filmDocument film = none := by
    rw [filmDocument, Option.not_isSome_iff_eq_none.1 hnone]
    rfl
  rw [filmSource?, filmRecord?, hdocument] at h
  cases h

end Catalog

end CatalogSync
