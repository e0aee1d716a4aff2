import CatalogSync.Proofs.Catalog.Documents

/-!
# The cast of a film

What the JSON of a film's aggregate says is read off it here without a decoder: the text in a field,
the people with the names of their roles, the things linked by id and name. The document of the film
says the same (`FilmRecord.transform_tells`): nobody is lost, invented or moved to another list.
-/

namespace CatalogSync

/-- Two computations in a row are answered when the first is, and then the second. -/
theorem exists_of_bind_eq_ok {ε α β : Type} {r : Except ε α} {f : α → Except ε β} {b : β}
    (h : (r >>= f) = .ok b) : ∃ a, r = .ok a ∧ f a = .ok b := by
  cases r with
  | error e => cases h
  | ok a => exact ⟨a, rfl, h⟩

namespace Json

/-- What stands in a field of a record with these fields: in an object under the name of the field,
in an array at its place. -/
def field? (fields : List String) (name : String) : Json → Option Json
  | obj members => members.lookup name
  | arr items => (fields.zip items).lookup name
  | _ => none

def text? : Json → Option String
  | str s => some s
  | _ => none

def whole? : Json → Option Int
  | int n => some n
  | _ => none

def number? : Json → Option Float
  | int n => some (Float.ofInt n)
  | float x => some x
  | _ => none

/-- What is listed, each item read in one way; nothing if there is no list. -/
def listed? {α : Type} (item? : Json → Option α) : Option Json → Option (List α)
  | none => some []
  | some (arr items) => items.mapM item?
  | some _ => none

/-- A member stands in an ordered object under its name, of several the last. -/
theorem member?_object (members : List (String × Json)) (name : String) :
    (object members).member? name = members.reverse.lookup name := by
  have hsorted (sorted : List (String × Json)) :
      (members.foldl (fun sorted m => insertMember m.1 m.2 sorted) sorted).lookup name =
        (members.reverse ++ sorted).lookup name := by
    induction members generalizing sorted with
    | nil => rfl
    | cons m rest ih =>
      rw [List.foldl_cons, ih, List.reverse_cons, List.append_assoc, List.lookup_append,
        List.lookup_append, lookup_insertMember, List.singleton_append, List.lookup_cons]
      by_cases hname : name = m.1
      · simp [hname]
      · simp [hname, beq_eq_false_iff_ne.2 hname]
  have hall := hsorted []
  rwa [List.append_nil] at hall

end Json

namespace Decoder

variable {j : Json}

/-- What is decoded as a text is one. -/
theorem text?_of_string {s : String} (h : string j = .ok s) : j.text? = some s := by
  cases j <;> cases h
  rfl

/-- What is decoded as a decimal is that number. -/
theorem number?_of_float {x : Float} (h : float j = .ok x) : j.number? = some x := by
  cases j <;> cases h <;> rfl

/-- What is decoded as a whole number is that number. -/
theorem whole?_of_int32 {n : Int} (h : int32 j = .ok n) : j.whole? = some n := by
  unfold int32 whole at h
  split at h
  · split at h <;> cases h
    rfl
  · cases h

end Decoder

namespace Fields

variable {α β : Type} {find : String → Option Json} {name : String}

/-- Fields are read together if they are read one by one. -/
theorem build_seq_eq_ok {f : Fields (α → β)} {x : Fields α} {b : β} :
    (f <*> x).build find = .ok b ↔
      ∃ g, f.build find = .ok g ∧ ∃ a, x.build find = .ok a ∧ b = g a := by
  change (do return (← f.build find) (← x.build find)) = _ ↔ _
  cases f.build find with
  | error e => simp [bind, Except.bind]
  | ok g =>
    cases x.build find with
    | error e => simp [bind, Except.bind]
    | ok a => simp [bind, Except.bind, pure, Except.pure, eq_comm]

/-- What is made of a field is made of what is read there. -/
theorem build_map_eq_ok {f : α → β} {x : Fields α} {b : β} :
    (f <$> x).build find = .ok b ↔ ∃ a, x.build find = .ok a ∧ b = f a := by
  change (do return f (← x.build find)) = _ ↔ _
  cases x.build find with
  | error e => simp [bind, Except.bind]
  | ok a => simp [bind, Except.bind, pure, Except.pure, eq_comm]

/-- A record is built from what stands in its fields. -/
theorem build_of_decode_eq_ok {type : String} {fields : Fields α} {j : Json} {a : α}
    (h : fields.decode type j = .ok a) :
    fields.build (fun name => j.field? (fields.checks.map FieldCheck.name) name) = .ok a := by
  unfold decode at h
  cases j with
  | obj members =>
    obtain ⟨_, -, hbuild⟩ := exists_of_bind_eq_ok h
    exact hbuild
  | arr items =>
    obtain ⟨_, -, hbuild⟩ := exists_of_bind_eq_ok h
    exact hbuild
  | _ => cases h

/-- A text that has to be there is the text in its field. -/
theorem text?_of_required {s : String} (h : (required name .string).build find = .ok s) :
    (find name).bind Json.text? = some s := by
  rw [find_of_required h]
  rfl

/-- A value that may be `null` is the one that is there, if one is. -/
theorem view?_of_optional {d : Decoder α} (view? : Json → Option α) (hnull : view? .null = none)
    (hview : ∀ j a, d j = .ok a → view? j = some a) {j : Json} {o : Option α}
    (h : Decoder.optional d j = .ok o) : view? j = o := by
  unfold Decoder.optional at h
  split at h
  · cases h
    exact hnull
  · cases hd : d j with
    | error e =>
      rw [hd] at h
      cases h
    | ok a =>
      rw [hd] at h
      cases h
      exact hview j a hd

/-- So it is in a field that may be missing. -/
theorem view?_of_defaulted {d : Decoder α} (view? : Json → Option α) (hnull : view? .null = none)
    (hview : ∀ j a, d j = .ok a → view? j = some a) {o : Option α}
    (h : (defaulted name (.optional d) none).build find = .ok o) : (find name).bind view? = o := by
  simp only [defaulted] at h
  split at h
  · next j hfind =>
    rw [hfind, Option.bind_some]
    exact view?_of_optional view? hnull hview h
  · next hfind =>
    cases h
    rw [hfind]
    rfl

/-- A list that may be missing is what is listed in its field, item by item. -/
theorem listed?_of_defaulted {d : Decoder α} {item? : Json → Option β} {f : β → α}
    (hitem : ∀ j a, d j = .ok a → ∃ b, item? j = some b ∧ f b = a) {l : List α}
    (h : (defaulted name (.list d) []).build find = .ok l) :
    ∃ items, Json.listed? item? (find name) = some items ∧ items.map f = l := by
  simp only [defaulted] at h
  split at h
  · next j hfind =>
    rw [hfind]
    unfold Decoder.list at h
    split at h
    · next items =>
      have hall := forall₂_of_mapM h
      clear h hfind
      induction hall with
      | nil => exact ⟨[], rfl, rfl⟩
      | cons hdecode hrest ih =>
        obtain ⟨b, hb, rfl⟩ := hitem _ _ hdecode
        obtain ⟨bs, hbs, rfl⟩ := ih
        refine ⟨b :: bs, ?_, rfl⟩
        rw [Json.listed?] at hbs ⊢
        rw [List.mapM_cons, hb, hbs]
        rfl
    · cases h
  · next hfind =>
    cases h
    exact ⟨[], by rw [hfind]; rfl, rfl⟩

/-- A list that may be missing is read item by item, each as it is. -/
theorem listed?_of_defaulted_self {d : Decoder α} {item? : Json → Option α}
    (hitem : ∀ j a, d j = .ok a → item? j = some a) {l : List α}
    (h : (defaulted name (.list d) []).build find = .ok l) :
    Json.listed? item? (find name) = some l := by
  obtain ⟨items, hitems, rfl⟩ :=
    listed?_of_defaulted (f := fun a => a) (fun j a hj => ⟨a, hitem j a hj, rfl⟩) h
  rw [List.map_id']
  exact hitems

end Fields

/-- The id and name that JSON spells in a record with these fields. -/
def Json.named? (fields : List String) (j : Json) : Option NamedRef := do
  let id ← (j.field? fields "id").bind text?
  let name ← (j.field? fields "name").bind text?
  some ⟨id, name⟩

/-- The name of a role, alone or as the one member of an object with `null`. -/
def Role.spelled? : Json → Option String
  | .str name => some name
  | .obj [(name, .null)] => some name
  | _ => none

/-- A person with a role of any name. -/
structure NamedCredit where
  person : NamedRef
  role : String

namespace NamedCredit

/-- A person in a role, as JSON spells them. -/
def spelled? (j : Json) : Option NamedCredit := do
  let person ← j.named? ["id", "name", "role"]
  let role ← (j.field? ["id", "name", "role"] "role").bind Role.spelled?
  some ⟨person, role⟩

/-- The credit of a record, which has no name for a role that documents do not list. -/
def toCredit (c : NamedCredit) : Credit := ⟨c.person.id, c.person.name, .ofName c.role⟩

end NamedCredit

/-- A reference is decoded as the id and the name that the JSON has. -/
theorem NamedRef.named?_of_decode {j : Json} {r : NamedRef} (h : NamedRef.decode j = .ok r) :
    j.named? ["id", "name"] = some r := by
  have hbuild := Fields.build_of_decode_eq_ok h
  simp only [Fields.build_seq_eq_ok, Fields.build_map_eq_ok] at hbuild
  obtain ⟨_, ⟨id, hid, rfl⟩, name, hname, rfl⟩ := hbuild
  have hid : (j.field? ["id", "name"] "id").bind Json.text? = some id :=
    Fields.text?_of_required hid
  have hname : (j.field? ["id", "name"] "name").bind Json.text? = some name :=
    Fields.text?_of_required hname
  simp only [Json.named?, hid, hname, Option.bind_eq_bind, Option.bind_some]

/-- A role is decoded from the name that the JSON has. -/
theorem Role.spelled?_of_decode {j : Json} {role : Role} (h : Role.decode j = .ok role) :
    ∃ name, Role.spelled? j = some name ∧ role = .ofName name := by
  unfold Role.decode at h
  split at h
  · cases h
    exact ⟨_, rfl, rfl⟩
  · cases h
    exact ⟨_, rfl, rfl⟩
  all_goals cases h

/-- A credit is decoded as the person and the name of the role that the JSON has. -/
theorem NamedCredit.spelled?_of_decode {j : Json} {c : Credit} (h : Credit.decode j = .ok c) :
    ∃ n, NamedCredit.spelled? j = some n ∧ n.toCredit = c := by
  have hbuild := Fields.build_of_decode_eq_ok h
  simp only [Fields.build_seq_eq_ok, Fields.build_map_eq_ok] at hbuild
  obtain ⟨_, ⟨_, ⟨id, hid, rfl⟩, name, hname, rfl⟩, role, hrole, rfl⟩ := hbuild
  have hid : (j.field? ["id", "name", "role"] "id").bind Json.text? = some id :=
    Fields.text?_of_required hid
  have hname : (j.field? ["id", "name", "role"] "name").bind Json.text? = some name :=
    Fields.text?_of_required hname
  obtain ⟨spelling, hspelling, rfl⟩ :
      ∃ spelling, (j.field? ["id", "name", "role"] "role").bind Role.spelled? = some spelling ∧
        role = .ofName spelling := by
    simp only [Fields.required] at hrole
    split at hrole
    · next field hfield =>
      obtain ⟨spelling, hspelling, hrole⟩ := Role.spelled?_of_decode hrole
      refine ⟨spelling, ?_, hrole⟩
      change j.field? ["id", "name", "role"] "role" = some field at hfield
      rw [hfield]
      exact hspelling
    · cases hrole
  refine ⟨⟨⟨id, name⟩, spelling⟩, ?_, rfl⟩
  simp only [NamedCredit.spelled?, Json.named?, hid, hname, hspelling, Option.bind_eq_bind,
    Option.bind_some]

/-- Only its own name stands for a role that documents list. -/
theorem Role.ofName_eq_iff {role : Role} (hlisted : role ≠ .other) {name : String} :
    Role.ofName name = role ↔ name = role.name := by
  constructor
  · rintro rfl
    unfold ofName at hlisted ⊢
    split
    · next h => exact h
    · split
      · next h => exact h
      · split
        · next h => exact h
        · simp_all
  · rintro rfl
    cases role with
    | other => exact absurd rfl hlisted
    | _ => rfl

/-- The people credited in a role, in their order. -/
def Credit.inRole (role : Role) (persons : List Credit) : List NamedRef :=
  (persons.filter (·.role = role)).map Credit.toRef

/-- Filling a cast appends to each list the people in its role. -/
theorem Cast.foldl_add (persons : List Credit) (c : Cast) :
    persons.foldl Cast.add c = ⟨c.actors ++ Credit.inRole .actor persons,
      c.writers ++ Credit.inRole .writer persons,
      c.directors ++ Credit.inRole .director persons⟩ := by
  induction persons generalizing c with
  | nil => simp [Credit.inRole]
  | cons person rest ih =>
    rw [List.foldl_cons, ih, add]
    cases hrole : person.role <;> simp [Credit.inRole, hrole]

/-- The loop over the people of a film sorts them by their roles and keeps their order. -/
theorem FilmRecord.cast_eq (r : FilmRecord) :
    r.cast = ⟨Credit.inRole .actor r.persons, Credit.inRole .writer r.persons,
      Credit.inRole .director r.persons⟩ :=
  Cast.foldl_add r.persons .empty

/-- People are credited in a role exactly if the role is named so, in their order. -/
theorem Credit.inRole_map (people : List NamedCredit) {role : Role} (hlisted : role ≠ .other) :
    Credit.inRole role (people.map NamedCredit.toCredit) =
      (people.filter (·.role = role.name)).map NamedCredit.person := by
  have hrole : (fun c : NamedCredit => decide (c.toCredit.role = role)) =
      fun c => decide (c.role = role.name) := by
    funext c
    exact decide_eq_decide.2 (Role.ofName_eq_iff hlisted)
  rw [Credit.inRole, List.filter_map, List.map_map]
  exact congrArg _ (congrArg (List.filter · people) hrole)

/-- Everybody is in one of three roles or in another. -/
theorem NamedCredit.length_partition (people : List NamedCredit) :
    (people.filter (·.role = "actor")).length + (people.filter (·.role = "writer")).length +
        (people.filter (·.role = "director")).length +
        people.countP (fun c => c.role ∉ ["actor", "writer", "director"]) = people.length := by
  induction people with
  | nil => rfl
  | cons c rest ih =>
    simp only [List.filter_cons, List.countP_cons, List.length_cons, decide_eq_true_eq] at ih ⊢
    rw [← ih]
    by_cases hactor : c.role = "actor"
    · simp [hactor]
      omega
    · by_cases hwriter : c.role = "writer"
      · simp [hwriter]
        omega
      · by_cases hdirector : c.role = "director"
        · simp [hdirector]
          omega
        · simp [hactor, hwriter, hdirector]
          omega

/-- A rating that is missing counts as zero, and any other is rounded. -/
theorem documentRating?_eq_some {rating : Option Float} {x : Float}
    (h : documentRating? rating = some x) : x = rating.elim 0 roundToTenth := by
  cases rating with
  | none => exact (Option.some.inj h).symm
  | some y =>
    rw [documentRating?] at h
    split at h
    · exact (Option.some.inj h).symm
    · cases h

/-- The fields of a film in the order of their declaration. -/
def filmFields : List String :=
  ["id", "title", "description", "rating", "age_limit", "type", "modified", "persons", "genres",
    "marks"]

/-- The record of a film is what its JSON says, in which these people are listed. -/
structure FilmRecord.Reads (j : Json) (people : List NamedCredit) (r : FilmRecord) : Prop where
  listed : Json.listed? NamedCredit.spelled? (j.field? filmFields "persons") = some people
  persons : people.map NamedCredit.toCredit = r.persons
  genres : Json.listed? (Json.named? ["id", "name"]) (j.field? filmFields "genres") = some r.genres
  marks : Json.listed? (Json.named? ["id", "name"]) (j.field? filmFields "marks") = some r.marks
  id : (j.field? filmFields "id").bind Json.text? = some r.id
  title : (j.field? filmFields "title").bind Json.text? = some r.title
  kind : (j.field? filmFields "type").bind Json.text? = some r.kind
  description : (j.field? filmFields "description").bind Json.text? = r.description
  ageLimit : (j.field? filmFields "age_limit").bind Json.whole? = r.ageLimit
  rating : (j.field? filmFields "rating").bind Json.number? = r.rating

/-- A record is what the JSON that it was decoded from says. -/
theorem FilmRecord.reads_of_decode {j : Json} {r : FilmRecord} (h : FilmRecord.decode j = .ok r) :
    ∃ people, r.Reads j people := by
  have hbuild := Fields.build_of_decode_eq_ok h
  simp only [Fields.build_seq_eq_ok, Fields.build_map_eq_ok] at hbuild
  obtain ⟨_, ⟨_, ⟨_, ⟨_, ⟨_, ⟨_, ⟨_, ⟨_, ⟨_, ⟨id, hid, rfl⟩, title, htitle, rfl⟩, description,
    hdescription, rfl⟩, rating, hrating, rfl⟩, ageLimit, hage, rfl⟩, kind, hkind, rfl⟩, _, _, rfl⟩,
    persons, hpersons, rfl⟩, genres, hgenres, rfl⟩, marks, hmarks, rfl⟩ := hbuild
  obtain ⟨people, hlisted, hpeople⟩ :=
    Fields.listed?_of_defaulted (fun j c => NamedCredit.spelled?_of_decode) hpersons
  exact ⟨people, hlisted, hpeople,
    Fields.listed?_of_defaulted_self (fun j r => NamedRef.named?_of_decode) hgenres,
    Fields.listed?_of_defaulted_self (fun j r => NamedRef.named?_of_decode) hmarks,
    Fields.text?_of_required hid, Fields.text?_of_required htitle, Fields.text?_of_required hkind,
    Fields.view?_of_defaulted Json.text? rfl (fun j s => Decoder.text?_of_string) hdescription,
    Fields.view?_of_defaulted Json.whole? rfl (fun j n => Decoder.whole?_of_int32) hage,
    Fields.view?_of_defaulted Json.number? rfl (fun j x => Decoder.number?_of_float) hrating⟩

namespace FilmDocument

/-- The document says of a film what its JSON says, in which these people are listed. -/
structure Tells (j : Json) (people : List NamedCredit) (d : FilmDocument) : Prop where
  persons : Json.listed? NamedCredit.spelled? (j.field? filmFields "persons") = some people
  actors : d.actors = (people.filter (·.role = "actor")).map NamedCredit.person
  writers : d.writers = (people.filter (·.role = "writer")).map NamedCredit.person
  directors : d.directors = (people.filter (·.role = "director")).map NamedCredit.person
  /-- Nobody is left out but those in other roles. -/
  everybody : d.actors.length + d.writers.length + d.directors.length +
    people.countP (fun c => c.role ∉ ["actor", "writer", "director"]) = people.length
  genres : Json.listed? (Json.named? ["id", "name"]) (j.field? filmFields "genres") = some d.genres
  marks : (Json.listed? (Json.named? ["id", "name"]) (j.field? filmFields "marks")).map
    (List.map NamedRef.name) = some d.marks
  id : (j.field? filmFields "id").bind Json.text? = some d.id
  title : (j.field? filmFields "title").bind Json.text? = some d.title
  kind : (j.field? filmFields "type").bind Json.text? = some d.kind
  description : d.description = ((j.field? filmFields "description").bind Json.text?).getD ""
  ageLimit : d.ageLimit = ((j.field? filmFields "age_limit").bind Json.whole?).getD 0
  rating : d.rating = ((j.field? filmFields "rating").bind Json.number?).elim 0 roundToTenth

/-- The document lists the names of what is linked, position by position. -/
structure IsNamed (d : FilmDocument) : Prop where
  genres : d.genreNames = d.genres.map NamedRef.name
  actors : d.actorNames = d.actors.map NamedRef.name
  writers : d.writerNames = d.writers.map NamedRef.name
  directors : d.directorNames = d.directors.map NamedRef.name

/-- The stored source lists the names of what is linked position by position, and has everything
else as the document has it. -/
structure IsStored (d : FilmDocument) : Prop where
  names : ∀ m ∈ [("actors_names", d.actors), ("writers_names", d.writers),
    ("directors_names", d.directors), ("genre", d.genres)],
    d.toJson.member? m.1 = some (.arr (m.2.map fun r => .str r.name))
  refs : ∀ m ∈ [("actors", d.actors), ("writers", d.writers), ("directors", d.directors),
    ("genres", d.genres)], d.toJson.member? m.1 = some (.arr (m.2.map NamedRef.toJson))
  texts : ∀ m ∈ [("id", d.id), ("title", d.title), ("fw_type", d.kind),
    ("description", d.description)], d.toJson.member? m.1 = some (.str m.2)
  mark : d.toJson.member? "mark" = some (.arr (d.marks.map .str))
  ageLimit : d.toJson.member? "rars_rating" = some (.int d.ageLimit)
  rating : d.toJson.member? "imdb_rating" = some (numberToJson d.rating)

/-- The rating is stored as a number, if it is one. -/
theorem member?_rating (d : FilmDocument) :
    d.toJson.member? "imdb_rating" = some (numberToJson d.rating) := by
  simp [toJson, Json.member?_object, List.lookup_cons]

/-- A document that lists the right names is stored with them. -/
theorem IsNamed.isStored {d : FilmDocument} (h : d.IsNamed) : d.IsStored where
  names := by
    simp [toJson, Json.member?_object, List.lookup_cons, textsToJson, h.genres, h.actors, h.writers,
      h.directors]
  refs := by simp [toJson, Json.member?_object, List.lookup_cons, refsToJson]
  texts := by simp [toJson, Json.member?_object, List.lookup_cons]
  mark := by simp [toJson, Json.member?_object, List.lookup_cons, textsToJson]
  ageLimit := by simp [toJson, Json.member?_object, List.lookup_cons]
  rating := d.member?_rating

end FilmDocument

/-- What a record says of a film, its document says. -/
theorem FilmRecord.Reads.tells {j : Json} {people : List NamedCredit} {r : FilmRecord}
    {d : FilmDocument} (h : r.Reads j people) (htransform : r.transform = .ok d) :
    d.Tells j people := by
  have hcast := r.cast_eq
  rw [← h.persons, Credit.inRole_map people (by decide : Role.actor ≠ .other),
    Credit.inRole_map people (by decide : Role.writer ≠ .other),
    Credit.inRole_map people (by decide : Role.director ≠ .other)] at hcast
  have hactors := congrArg Cast.actors hcast
  have hwriters := congrArg Cast.writers hcast
  have hdirectors := congrArg Cast.directors hcast
  unfold FilmRecord.transform at htransform
  split at htransform
  · cases htransform
  · split at htransform
    · cases htransform
    · next x hdocument =>
      cases htransform
      refine ⟨h.listed, hactors, hwriters, hdirectors, ?_, h.genres, ?_, h.id, h.title, h.kind,
        ?_, ?_, ?_⟩
      · simp only [hactors, hwriters, hdirectors, List.length_map]
        exact NamedCredit.length_partition people
      · rw [h.marks]
        rfl
      · rw [h.description]
      · rw [h.ageLimit]
      · rw [h.rating]
        exact documentRating?_eq_some hdocument

/-- The names in a document are those of what it links. -/
theorem FilmRecord.isNamed_of_transform {r : FilmRecord} {d : FilmDocument}
    (h : r.transform = .ok d) : d.IsNamed := by
  unfold FilmRecord.transform at h
  split at h
  · cases h
  · split at h
    · cases h
    · cases h
      exact ⟨rfl, rfl, rfl, rfl⟩

/-- The document of a film tells what the JSON of its aggregate tells, and is stored so under the id
of the film. -/
theorem FilmRecord.transform_tells {j : Json} {r : FilmRecord} {d : FilmDocument}
    (hdecode : FilmRecord.decode j = .ok r) (htransform : r.transform = .ok d) :
    d.toDocument.id = r.id ∧ d.toDocument.source = .ok d.toJson ∧ d.IsNamed ∧ d.IsStored ∧
      ∃ people, d.Tells j people := by
  have hnamed := FilmRecord.isNamed_of_transform htransform
  obtain ⟨people, hreads⟩ := FilmRecord.reads_of_decode hdecode
  exact ⟨FilmRecord.transform_id htransform, rfl, hnamed, hnamed.isStored, people,
    hreads.tells htransform⟩

/-- A film that was written by its director, with a producer and without genres. An actor is listed
without the names of fields. -/
def ownScript : Json := .obj [("id", .str "f"), ("title", .str "Up"), ("type", .str "movie"),
  ("modified", .str "0001-01-01T00:00:00Z"), ("description", .null),
  ("persons", .arr [
    .obj [("id", .str "p"), ("name", .str "Ed"), ("role", .str "director")],
    .obj [("id", .str "q"), ("name", .str "Jo"), ("role", .str "producer")],
    .arr [.str "r", .str "Al", .obj [("actor", .null)]],
    .obj [("id", .str "p"), ("name", .str "Ed"), ("role", .str "writer")]]),
  ("marks", .arr [.obj [("id", .str "m"), ("name", .str "new")]])]

def ownScriptDocument : FilmDocument where
  id := "f"
  kind := "movie"
  ageLimit := 0
  title := "Up"
  description := ""
  rating := 0
  genres := []
  genreNames := []
  marks := ["new"]
  actors := [⟨"r", "Al"⟩]
  writers := [⟨"p", "Ed"⟩]
  directors := [⟨"p", "Ed"⟩]
  actorNames := ["Al"]
  writerNames := ["Ed"]
  directorNames := ["Ed"]

/-- The director is listed twice, the producer nowhere. -/
theorem transform_tells_ownScript :
    ∃ record, FilmRecord.decode ownScript = .ok record ∧
      record.transform = .ok ownScriptDocument ∧
      ∃ people, ownScriptDocument.Tells ownScript people := by
  let people : List Credit := [⟨"p", "Ed", .director⟩, ⟨"q", "Jo", .other⟩, ⟨"r", "Al", .actor⟩,
    ⟨"p", "Ed", .writer⟩]
  let record : FilmRecord :=
    ⟨"f", "Up", none, none, none, "movie", .first, people, [], [⟨"m", "new"⟩]⟩
  have hdecode : FilmRecord.decode ownScript = .ok record := rfl
  have hid : ¬ Text.IsBlank record.id := by decide
  have htransform : record.transform = .ok ownScriptDocument := by
    rw [FilmRecord.transform, if_neg hid]
    rfl
  obtain ⟨-, -, -, -, htells⟩ := FilmRecord.transform_tells hdecode htransform
  exact ⟨record, hdecode, htransform, htells⟩

end CatalogSync
