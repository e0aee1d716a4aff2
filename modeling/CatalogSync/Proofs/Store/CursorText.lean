import CatalogSync.Proofs.Json.Spelling
import CatalogSync.Proofs.Timestamp.Reading
import CatalogSync.Store.CursorFile

/-!
# The text of the cursor file

Writer and reader of the cursor file are apart, but what is written for a map is read as that map:
strings are escaped and unescaped, timestamps printed and parsed, entries listed and put in order.
-/

namespace CatalogSync

/-- A cursor is read back from its pair. -/
theorem Cursor.decode_toJson (c : Cursor) : Cursor.decode c.toJson = .ok c := by
  obtain ⟨timestamp, id⟩ := c
  cases id <;>
    simp [decode, toJson, Timestamp.decode, Timestamp.parse?_text, Decoder.optional, Decoder.string,
      Except.map] <;> rfl

namespace CursorMap

/-- So is an entry, with or without a cursor. -/
theorem optional_entryToJson (entry : Option Cursor) :
    Decoder.optional Cursor.decode (entryToJson entry) = .ok entry := by
  cases entry with
  | none => rfl
  | some c =>
    have hdecode := c.decode_toJson
    rw [Cursor.toJson] at hdecode
    simp only [entryToJson, Cursor.toJson, Decoder.optional, hdecode]
    rfl

theorem mapM_entryToJson (entries : List (String × Option Cursor)) :
    (entries.map fun e => (e.1, entryToJson e.2)).mapM (fun (name, j) => do
      return (name, ← Decoder.optional Cursor.decode j)) =
        (.ok entries : Except DecodeError _) := by
  induction entries with
  | nil => rfl
  | cons e rest ih =>
    simp only [List.map_cons, List.mapM_cons, ih, optional_entryToJson]
    rfl

/-- So is a map. -/
theorem decode_toJson (m : CursorMap) : decode m.toJson = .ok m := by
  rw [toJson, decode, mapM_entryToJson]
  exact congrArg Except.ok (NameMap.ofList_entries m)

theorem isPlain_entryToJson (entry : Option Cursor) (depth : Nat) :
    Json.IsPlain (depth + 1) (entryToJson entry) := by
  rcases entry with _ | ⟨timestamp, _ | id⟩ <;>
    simp [entryToJson, Cursor.toJson, Json.IsPlain, Json.ArePlainItems]

/-- The value of a map is two levels deep and without numbers. -/
theorem isPlain_toJson (m : CursorMap) (depth : Nat) : Json.IsPlain (depth + 2) m.toJson := by
  have hmembers : ∀ entries : List (String × Option Cursor),
      Json.ArePlainMembers (depth + 1) (entries.map fun e => (e.1, entryToJson e.2)) := by
    intro entries
    induction entries with
    | nil => trivial
    | cons e rest ih => exact ⟨isPlain_entryToJson e.2 depth, ih⟩
  exact hmembers m.entries

end CursorMap

namespace CursorFile

/-- A map is read back from its text. -/
theorem ofText?_text (m : CursorMap) : ofText? (text m) = some m := by
  have hnewline : Json.IsBlanks ['\n'] := by
    intro c hc
    rw [List.mem_singleton.1 hc]
    rfl
  have htext : (text m).toList = [] ++ Json.writeIndented 0 m.toJson ++ ['\n'] := by
    simp [text, Json.indented]
  have hread : Json.read? (text m).toList = some m.toJson := by
    rw [htext]
    exact Json.read?_of_spells (Json.spells_writeIndented 0 m.toJson) (m.isPlain_toJson 125)
      Json.isBlanks_nil hnewline
  simp only [ofText?, hread, CursorMap.decode_toJson, Option.bind_eq_bind, Option.bind_some]

/-- So it is from the bytes of its text. -/
theorem ofBytes_text (m : CursorMap) : ofBytes (text m).toUTF8 = m := by
  have hutf8 : String.fromUTF8? (text m).toUTF8 = some (text m) := dif_pos (text m).isValidUTF8
  rw [ofBytes, hutf8, Option.bind_some, ofText?_text, Option.getD_some]

end CursorFile

end CatalogSync
