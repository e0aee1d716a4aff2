import CatalogSync.Load.BulkBody
import CatalogSync.Proofs.Json.Compact

/-!
# Reading a bulk body back

A body is cut at its newlines only, so it can be read back if no line of it holds one. The line of
an action and that of a document are both compact JSON texts, which are on one line whatever the
strings in them hold: nothing in a document adds a line, merges two or moves one to another id.
-/

namespace CatalogSync

namespace BulkAction

theorem isPlain_toJson (a : BulkAction) (depth : Nat) : Json.IsPlain (depth + 2) a.toJson := by
  simp [toJson, Json.IsPlain, Json.ArePlainMembers]

/-- The line of an action spells it. -/
theorem read?_write_toJson (a : BulkAction) : Json.read? a.toJson.write = some a.toJson := by
  have hread := Json.read?_of_spells (Json.spells_write a.toJson) (a.isPlain_toJson 126)
    Json.isBlanks_nil Json.isBlanks_nil
  simpa using hread

/-- An action is read back from its line. -/
theorem read?_write (a : BulkAction) : read? a.toJson.write = some a := by
  have hindex : a.toJson.member? "index" =
      some (.obj [("_index", .str a.index), ("_id", .str a.id)]) := rfl
  simp only [read?, read?_write_toJson, Option.bind_eq_bind, Option.bind_some, hindex]
  rfl

end BulkAction

namespace BulkBody

/-- A line is cut off at the newline that ends it. -/
theorem lines?_line {line : List Char} (h : '\n' ∉ line) (rest : List Char) :
    lines? (line ++ '\n' :: rest) = (lines? rest).map (line :: ·) := by
  induction line with
  | nil =>
    rw [List.nil_append, lines?]
    cases lines? rest <;> rfl
  | cons c cs ih =>
    have hc : c ≠ '\n' := fun hc => h (hc ▸ List.mem_cons_self)
    have hcs : '\n' ∉ cs := fun hmem => h (List.mem_cons_of_mem c hmem)
    rw [List.cons_append, lines?.eq_3 c _ hc, ih hcs]
    cases lines? rest <;> rfl

/-- The lines of a text have no newline in them, and make up the text with one behind each. -/
theorem lines?_eq_some_iff {cs : List Char} {lines : List (List Char)} :
    lines? cs = some lines ↔ cs = lines.flatMap (· ++ ['\n']) ∧ ∀ line ∈ lines, '\n' ∉ line := by
  constructor
  · intro h
    induction cs generalizing lines with
    | nil =>
      cases h
      simp
    | cons c rest ih =>
      by_cases hc : c = '\n'
      · subst hc
        cases hrest : lines? rest with
        | none => simp [lines?, hrest] at h
        | some more =>
          have hlines : lines = [] :: more := by simpa [lines?, hrest] using h.symm
          obtain ⟨htext, hmore⟩ := ih hrest
          subst hlines
          exact ⟨by simp [← htext], by simpa using hmore⟩
      · rw [lines?.eq_3 c rest hc] at h
        cases hrest : lines? rest with
        | none => simp [hrest] at h
        | some found =>
          cases found with
          | nil => simp [hrest] at h
          | cons line more =>
            have hlines : lines = (c :: line) :: more := by simpa [hrest] using h.symm
            obtain ⟨htext, hall⟩ := ih hrest
            subst hlines
            have hline : '\n' ∉ line ∧ ∀ l ∈ more, '\n' ∉ l := by simpa using hall
            refine ⟨by simpa using htext, ?_⟩
            simpa [Ne.symm hc, hline.1] using hline.2
  · rintro ⟨rfl, hall⟩
    induction lines with
    | nil => rfl
    | cons line more ih =>
      rw [List.forall_mem_cons] at hall
      have htext : (line :: more).flatMap (· ++ ['\n']) =
          line ++ '\n' :: more.flatMap (· ++ ['\n']) := by simp
      rw [htext, lines?_line hall.1, ih hall.2, Option.map_some]

/-- The lines of a batch. -/
def linesOf (index : String) (batch : Batch) : List (List Char) :=
  batch.flatMap fun e => [(BulkAction.toJson ⟨index, e.id⟩).write, e.source.write]

theorem linesOf_cons (index : String) (e : Entry) (rest : Batch) :
    linesOf index (e :: rest) = (BulkAction.toJson ⟨index, e.id⟩).write :: e.source.write ::
      linesOf index rest := rfl

theorem write_eq_flatMap (index : String) (batch : Batch) :
    write index batch = (linesOf index batch).flatMap (· ++ ['\n']) := by
  induction batch with
  | nil => rfl
  | cons e rest ih =>
    have hbody : write index (e :: rest) = writeEntry index e ++ write index rest := rfl
    rw [hbody, ih]
    simp [linesOf, writeEntry]

/-- No line of a batch holds a newline, whatever its ids and its documents do. -/
theorem newline_notMem_linesOf (index : String) (batch : Batch) :
    ∀ line ∈ linesOf index batch, '\n' ∉ line := by
  intro line hline
  obtain ⟨e, -, hmem⟩ := List.mem_flatMap.1 hline
  rcases List.mem_cons.1 hmem with rfl | hmem
  · exact (Json.isOneLine_write _).newline_notMem
  · rw [List.mem_singleton.1 hmem]
    exact (Json.isOneLine_write _).newline_notMem

/-- So the lines of a body are those of its batch. -/
theorem lines?_write (index : String) (batch : Batch) :
    lines? (write index batch) = some (linesOf index batch) :=
  lines?_eq_some_iff.2 ⟨write_eq_flatMap index batch, newline_notMem_linesOf index batch⟩

theorem length_linesOf (index : String) (batch : Batch) :
    (linesOf index batch).length = 2 * batch.length := by
  induction batch with
  | nil => rfl
  | cons e rest ih =>
    rw [linesOf_cons, List.length_cons, List.length_cons, ih, List.length_cons]
    omega

/-- The entry at a place has the two lines at twice that place. -/
theorem linesOf_getElem? (index : String) {batch : Batch} {k : Nat} {e : Entry}
    (h : batch[k]? = some e) :
    (linesOf index batch)[2 * k]? = some (BulkAction.toJson ⟨index, e.id⟩).write ∧
      (linesOf index batch)[2 * k + 1]? = some e.source.write := by
  induction batch generalizing k with
  | nil => cases h
  | cons first rest ih =>
    cases k with
    | zero =>
      cases h
      exact ⟨rfl, rfl⟩
    | succ k => exact ih h

/-- What a body asks for is read back from it: the actions with the texts of the documents. -/
theorem read?_write (index : String) (batch : Batch) :
    read? (write index batch) =
      some (batch.map fun e => (⟨index, e.id⟩, e.source.write)) := by
  rw [read?, lines?_write, Option.bind_some]
  induction batch with
  | nil => rfl
  | cons e rest ih =>
    rw [linesOf_cons, pair?, BulkAction.read?_write, ih]
    rfl

theorem toList_text (index : String) (batch : Batch) :
    (text index batch).toList = write index batch := String.toList_ofList

/-- A body that is not empty ends with a newline. -/
theorem getLast?_write (index : String) (batch : Batch) :
    (write index batch).getLast? = batch.getLast?.map fun _ => '\n' := by
  rcases batch.eq_nil_or_concat with rfl | ⟨rest, e, rfl⟩
  · rfl
  · have hbody : write index (rest ++ [e]) =
        (write index rest ++ ((BulkAction.toJson ⟨index, e.id⟩).write ++ '\n' :: e.source.write)) ++
          ['\n'] := by
      simp [write, writeEntry]
    rw [List.concat_eq_append, hbody, List.getLast?_concat, List.getLast?_concat, Option.map_some]

/-- Two bodies are the same only if they ask for the same. -/
theorem text_eq_text_iff {index index' : String} {batch batch' : Batch} :
    text index batch = text index' batch' ↔
      (batch.map fun e => (BulkAction.mk index e.id, e.source.write)) =
        batch'.map fun e => (BulkAction.mk index' e.id, e.source.write) := by
  constructor
  · intro h
    have hread := congrArg (fun body : String => read? body.toList) h
    simpa only [toList_text, read?_write, Option.some.injEq] using hread
  · intro h
    have hpieces (i : String) (b : Batch) : text i b = String.ofList
        ((b.map fun e => (BulkAction.mk i e.id, e.source.write)).flatMap fun p =>
          p.1.toJson.write ++ '\n' :: (p.2 ++ ['\n'])) := by
      rw [List.flatMap_map]
      rfl
    rw [hpieces, hpieces, h]

/-- A text as the body of a batch, cut into lines at its newlines. -/
structure IsFramed (index : String) (batch : Batch) (body : List Char)
    (lines : List (List Char)) : Prop where
  /-- The lines make up the text, with a newline behind each. -/
  body_eq : body = lines.flatMap (· ++ ['\n'])
  newline_notMem : ∀ line ∈ lines, '\n' ∉ line
  /-- Each entry has two lines. -/
  length_eq : lines.length = 2 * batch.length
  /-- The first is a JSON text that asks for the entry to be written in the index, under its id. -/
  action : ∀ k e, batch[k]? = some e → ∃ line, lines[2 * k]? = some line ∧
    Json.read? line = some (BulkAction.toJson ⟨index, e.id⟩) ∧
    BulkAction.read? line = some ⟨index, e.id⟩
  /-- The second is the compact text of its document. -/
  source : ∀ k e, batch[k]? = some e → lines[2 * k + 1]? = some e.source.write

/-- The body of a batch can be read back. It is empty for an empty batch and ends with a newline
otherwise. Cut at its newlines it has for every entry the line of its action and the line of its
document, which is read back as such, and two bodies are the same only if they put the same texts
under the same ids, in the same order. -/
theorem reads_back (index : String) (batch : Batch) :
    ((text index batch).toList.getLast? = batch.getLast?.map fun _ => '\n') ∧
    (∃ lines, lines? (text index batch).toList = some lines ∧
      IsFramed index batch (text index batch).toList lines) ∧
    read? (text index batch).toList =
      some (batch.map fun e => (⟨index, e.id⟩, e.source.write)) ∧
    ∀ index' batch', text index batch = text index' batch' ↔
      (batch.map fun e => (BulkAction.mk index e.id, e.source.write)) =
        batch'.map fun e => (BulkAction.mk index' e.id, e.source.write) := by
  rw [toList_text]
  refine ⟨getLast?_write index batch, ⟨linesOf index batch, lines?_write index batch, ?_⟩,
    read?_write index batch, fun index' batch' => text_eq_text_iff⟩
  constructor
  case body_eq => exact write_eq_flatMap index batch
  case newline_notMem => exact newline_notMem_linesOf index batch
  case length_eq => exact length_linesOf index batch
  case action =>
    intro k e he
    exact ⟨_, (linesOf_getElem? index he).1, BulkAction.read?_write_toJson _,
      BulkAction.read?_write _⟩
  case source =>
    intro k e he
    exact (linesOf_getElem? index he).2

end BulkBody

end CatalogSync
