import CatalogSync.Proofs.Json.Extension
import CatalogSync.Proofs.Store.CursorFile

/-!
# A torn cursor file

The text of a map is an object, and an object cannot be read before its last brace. So of all that
a torn write can leave of the text, wherever it is cut, only the whole map without its final newline
is understood, and anything less is no map at all.
-/

namespace CatalogSync.CursorFile

/-- A text is read back from its bytes, also when these are cut out of the beginning of others. -/
theorem fromUTF8?_extract (front more : String) :
    String.fromUTF8? ((front ++ more).toUTF8.extract 0 front.utf8ByteSize) = some front := by
  have hbytes : (front ++ more).toUTF8.extract 0 front.utf8ByteSize = front.toUTF8 := by
    simp only [String.toUTF8_eq_toByteArray, String.toByteArray_append]
    exact ByteArray.extract_append_eq_left rfl
  rw [hbytes]
  exact dif_pos front.isValidUTF8

/-- The first bytes of a text are no text, unless they end where one of its characters does. -/
theorem fromUTF8?_extract_cases (t : String) {n : Nat} (hn : n ≤ t.utf8ByteSize) :
    String.fromUTF8? (t.toUTF8.extract 0 n) = none ∨
      ∃ front more, t = front ++ more ∧ n = front.utf8ByteSize := by
  by_cases hvalid : (t.toUTF8.extract 0 n).IsValidUTF8
  · have hpos : String.Pos.Raw.IsValid t ⟨n⟩ :=
      String.Pos.Raw.isValid_iff_isValidUTF8_extract_zero.2 ⟨String.Pos.Raw.le_iff.2 hn, hvalid⟩
    obtain ⟨front, more, happend, hsize⟩ := String.Pos.Raw.isValid_iff_exists_append.1 hpos
    exact .inr ⟨front, more, happend, congrArg String.Pos.Raw.byteIdx hsize⟩
  · exact .inl (dif_neg hvalid)

theorem toList_text (m : CursorMap) :
    (text m).toList = Json.writeIndented 0 m.toJson ++ ['\n'] := by
  simp [text, Json.indented]

/-- A map is read back from its text without the final newline. -/
theorem ofText?_indented (m : CursorMap) : ofText? m.toJson.indented = some m := by
  have hread : Json.read? m.toJson.indented.toList = some m.toJson := by
    have hspells :=
      Json.read?_of_spells (Json.spells_writeIndented 0 m.toJson) (m.isPlain_toJson 125)
      Json.isBlanks_nil Json.isBlanks_nil
    rwa [List.nil_append, List.append_nil,
      ← String.toList_ofList (l := Json.writeIndented 0 m.toJson)]
      at hspells
  simp only [ofText?, hread, CursorMap.decode_toJson, Option.bind_eq_bind, Option.bind_some]

/-- What is cut out of the beginning of a text is understood only if no more than the final newline
is missing. -/
theorem eq_newline_of_ofText? {m m' : CursorMap} {front more : String}
    (htext : text m = front ++ more) (hmore : more ≠ "") (h : ofText? front = some m') :
    more = "\n" := by
  obtain ⟨j, hread, -⟩ := Option.bind_eq_some_iff.1 h
  have hcut : front.toList ++ more.toList = Json.writeIndented 0 m.toJson ++ ['\n'] := by
    rw [← toList_text, htext, String.toList_append]
  obtain ⟨behind, -, hnewline⟩ := Json.whole_of_read? (Json.spells_writeIndented 0 m.toJson)
    (m.isPlain_toJson 125) hcut hread
  cases behind with
  | nil => exact String.toList_inj.1 hnewline.symm
  | cons c behind =>
    obtain ⟨-, hempty⟩ := List.cons.inj hnewline
    exact absurd (String.toList_eq_nil_iff.1 (List.append_eq_nil_iff.1 hempty.symm).2) hmore

/-- What is left of the text of a map holds the map if only the final newline is missing, and else
no map at all. -/
theorem ofBytes_extract (m : CursorMap) {n : Nat} (hn : n < (text m).toUTF8.size) :
    ofBytes ((text m).toUTF8.extract 0 n) =
      if n + 1 = (text m).toUTF8.size then m else .empty := by
  have hsize : (text m).toUTF8.size = m.toJson.indented.utf8ByteSize + 1 :=
    String.utf8ByteSize_append
  split
  · next hlast =>
    obtain rfl : n = m.toJson.indented.utf8ByteSize := by omega
    have hfront : String.fromUTF8? ((text m).toUTF8.extract 0 m.toJson.indented.utf8ByteSize) =
        some m.toJson.indented := fromUTF8?_extract _ "\n"
    rw [ofBytes, hfront, Option.bind_some, ofText?_indented, Option.getD_some]
  · next hearlier =>
    rcases fromUTF8?_extract_cases (text m) hn.le with hnone | ⟨front, more, htext, rfl⟩
    · rw [ofBytes, hnone]
      rfl
    · cases hfront : ofText? front with
      | none =>
        rw [ofBytes, htext, fromUTF8?_extract, Option.bind_some, hfront]
        rfl
      | some m' =>
        have hwhole : (text m).toUTF8.size = front.utf8ByteSize + more.utf8ByteSize := by
          rw [htext]
          exact String.utf8ByteSize_append
        have hmore : more ≠ "" := by
          rintro rfl
          have hzero : "".utf8ByteSize = 0 := rfl
          omega
        have hone : more.utf8ByteSize = 1 := by
          rw [eq_newline_of_ofText? htext hmore hfront]
          rfl
        omega

/-- A commit leaves the text of its map in the file. Whatever beginning of that text the file holds,
it can be loaded: as the whole map if only the final newline is missing, and else as no map. -/
theorem load_torn (m : CursorMap) :
    (∀ target fs fs', commit target m fs = (.ok (), fs') →
      fs'.read target = .ok (text m).toUTF8) ∧
    ∀ n < (text m).toUTF8.size, ∀ target (fs : FileSystem),
      fs.read target = .ok ((text m).toUTF8.extract 0 n) →
      load target fs = .ok (if n + 1 = (text m).toUTF8.size then m else .empty) := by
  constructor
  · intro target fs fs' hcommit
    exact read_of_runSteps (runSteps_of_commit hcommit)
  · intro n hn target fs hfile
    rw [load, hfile]
    exact congrArg Except.ok (ofBytes_extract m hn)

/-- A file system with nothing but a cursor file. -/
def holding (bytes : ByteArray) : FileSystem := ⟨[(["cursors.json"], .file bytes)]⟩

theorem read_holding (bytes : ByteArray) : (holding bytes).read ["cursors.json"] = .ok bytes := by
  cbv

/-- Cut inside a character, the file holds no map; cut before its last byte, all of it. -/
theorem load_torn_oddMap :
    (commit ["cursors.json"] oddMap .empty).2.read ["cursors.json"] = .ok (text oddMap).toUTF8 ∧
      (text oddMap).toUTF8.size = 143 ∧
      String.fromUTF8? ((text oddMap).toUTF8.extract 0 31) = none ∧
      load ["cursors.json"] (holding ((text oddMap).toUTF8.extract 0 31)) = .ok .empty ∧
      load ["cursors.json"] (holding ((text oddMap).toUTF8.extract 0 142)) = .ok oddMap := by
  have hcommit : (commit ["cursors.json"] oddMap .empty).1 = .ok () := by cbv
  have hsize : (text oddMap).toUTF8.size = 143 := by decide +kernel
  have hcut : String.fromUTF8? ((text oddMap).toUTF8.extract 0 31) = none := by decide +kernel
  obtain ⟨hwritten, hload⟩ := load_torn oddMap
  refine ⟨hwritten _ _ _ (Prod.ext hcommit rfl), hsize, hcut, ?_, ?_⟩
  · rw [hsize] at hload
    exact hload 31 (by decide) ["cursors.json"] _ (read_holding _)
  · rw [hsize] at hload
    exact hload 142 (by decide) ["cursors.json"] _ (read_holding _)

end CatalogSync.CursorFile
