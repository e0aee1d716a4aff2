import CatalogSync.Json.Parser
import CatalogSync.Json.Printer

/-!
# How JSON is spelled

A value without numbers can be spelled in several ways, which differ in the blanks between the
tokens. The reader understands all of them, and the printers write one of them each.
-/

namespace CatalogSync.Json

open Text.Hexadecimal (digit value? value?_digit)

/-- The number that a control character is written by is read back. -/
theorem unit?_control {n : Nat} (hn : n < 0x20) :
    unit? '0' '0' (digit (n / 16)) (digit n) = some n := by
  have hzero : value? '0' = some 0 := rfl
  simp only [unit?, hzero, value?_digit, Option.bind_eq_bind, Option.bind_some, Option.some.injEq]
  omega

/-- So is a character that is escaped by a letter. -/
theorem readString_letter {letter c : Char} (h : escaped? letter = some c) (cs : List Char) :
    readString ('\\' :: letter :: cs) = (readString cs).map fun p => (c :: p.1, p.2) := by
  rw [readString.eq_4 letter cs fun _ _ _ _ _ hu _ => by subst hu; cases h]
  simp only [h, Option.bind_eq_bind, Option.bind_some]
  cases readString cs <;> rfl

/-- A character that is written in a string is read back from it. -/
theorem readString_escapeChar (c : Char) (cs : List Char) :
    readString (escapeChar c ++ cs) = (readString cs).map fun p => (c :: p.1, p.2) := by
  unfold escapeChar
  by_cases hquote : c = '"'
  · subst hquote
    exact readString_letter rfl cs
  by_cases hbackslash : c = '\\'
  · subst hbackslash
    exact readString_letter rfl cs
  rw [if_neg hquote, if_neg hbackslash]
  by_cases hcontrol : c.toNat < 0x20
  · rw [if_pos hcontrol]
    have hc := Char.ofNat_toNat c
    generalize c.toNat = n at hc hcontrol ⊢
    subst hc
    split
    iterate 5 exact readString_letter rfl cs
    have hscalar : ¬(0xd800 ≤ n ∧ n < 0xdc00) ∧ ¬(0xdc00 ≤ n ∧ n < 0xe000) := by omega
    change readString ('\\' :: 'u' :: '0' :: '0' :: digit (n / 16) :: digit n :: cs) = _
    rw [readString.eq_3, unit?_control hcontrol]
    simp only [Option.bind_eq_bind, Option.bind_some, if_neg hscalar.1, if_neg hscalar.2]
    cases readString cs <;> rfl
  · rw [if_neg hcontrol, List.cons_append, List.nil_append,
      readString.eq_5 c cs hquote (fun _ _ _ _ _ h => absurd h hbackslash)
        fun _ _ h => absurd h hbackslash, if_neg hcontrol]
    cases readString cs <;> rfl

/-- A string is read back up to its closing quote. -/
theorem readString_writeString (s : String) (rest : List Char) :
    readString (s.toList.flatMap escapeChar ++ '"' :: rest) = some (s.toList, rest) := by
  induction s.toList with
  | nil => rfl
  | cons c cs ih => rw [List.flatMap_cons, List.append_assoc, readString_escapeChar, ih]; rfl

/-- A written string is its quote, its escaped characters and another quote. -/
theorem writeString_append (s : String) (rest : List Char) :
    writeString s ++ rest = '"' :: (s.toList.flatMap escapeChar ++ '"' :: rest) := by
  simp [writeString]

/-- Blanks and nothing else. -/
def IsBlanks (cs : List Char) : Prop := ∀ c ∈ cs, isSpace c = true

/-- The empty text is blank. -/
@[simp] theorem isBlanks_nil : IsBlanks [] := by
  intro c hc
  cases hc

/-- A space is a blank. -/
theorem isBlanks_space : IsBlanks [' '] := by
  intro c hc
  rw [List.mem_singleton.1 hc]
  rfl

/-- A new line and what it is indented by are blanks. -/
theorem isBlanks_newline (depth : Nat) : IsBlanks (newline depth) := by
  intro c hc
  rcases List.mem_cons.1 hc with rfl | hc
  · rfl
  · rw [List.eq_of_mem_replicate hc]
    rfl

/-- Blanks are skipped. -/
theorem skipSpaces_append {blanks : List Char} (h : IsBlanks blanks) (cs : List Char) :
    skipSpaces (blanks ++ cs) = skipSpaces cs :=
  List.dropWhile_append_of_pos h

/-- No space is skipped where another character stands. -/
theorem skipSpaces_cons {c : Char} (h : isSpace c = false) (cs : List Char) :
    skipSpaces (c :: cs) = c :: cs :=
  List.dropWhile_cons_of_neg (by simp [h])

/-- Nothing behind the blanks is skipped. -/
theorem skipSpaces_blanks {blanks : List Char} (h : IsBlanks blanks) {c : Char}
    (hc : isSpace c = false) (cs : List Char) : skipSpaces (blanks ++ c :: cs) = c :: cs :=
  (skipSpaces_append h (c :: cs)).trans (skipSpaces_cons hc cs)

mutual

/-- The text spells the value, with any blanks between its tokens. -/
def Spells : Json → List Char → Prop
  | arr [], cs => ∃ blanks, IsBlanks blanks ∧ cs = '[' :: blanks ++ [']']
  | arr (j :: rest), cs => ∃ blanks text more, IsBlanks blanks ∧ Spells j text ∧
      SpellsItems rest more ∧ cs = '[' :: blanks ++ text ++ more
  | obj [], cs => ∃ blanks, IsBlanks blanks ∧ cs = '\x7b' :: blanks ++ ['\x7d']
  | obj ((name, j) :: rest), cs => ∃ blanks before after text more, IsBlanks blanks ∧
      IsBlanks before ∧ IsBlanks after ∧ Spells j text ∧ SpellsMembers rest more ∧
      cs = '\x7b' :: blanks ++ writeString name ++ before ++ ':' :: after ++ text ++ more
  | scalar, cs => cs = write scalar

/-- The text spells the items after the first, and the closing bracket. -/
def SpellsItems : List Json → List Char → Prop
  | [], cs => ∃ blanks, IsBlanks blanks ∧ cs = blanks ++ [']']
  | j :: rest, cs => ∃ before blanks text more, IsBlanks before ∧ IsBlanks blanks ∧
      Spells j text ∧ SpellsItems rest more ∧ cs = before ++ ',' :: blanks ++ text ++ more

/-- The text spells the members after the first, and the closing brace. -/
def SpellsMembers : List (String × Json) → List Char → Prop
  | [], cs => ∃ blanks, IsBlanks blanks ∧ cs = blanks ++ ['\x7d']
  | (name, j) :: rest, cs => ∃ front blanks before after text more, IsBlanks front ∧
      IsBlanks blanks ∧ IsBlanks before ∧ IsBlanks after ∧ Spells j text ∧ SpellsMembers rest more ∧
      cs = front ++ ',' :: blanks ++ writeString name ++ before ++ ':' :: after ++ text ++ more

end

mutual

/-- The value has no numbers, and its arrays and objects nest no deeper than this. -/
def IsPlain : (depth : Nat) → Json → Prop
  | _, int _ => False
  | _, float _ => False
  | 0, arr _ => False
  | 0, obj _ => False
  | depth + 1, arr items => ArePlainItems depth items
  | depth + 1, obj members => ArePlainMembers depth members
  | _, _ => True

/-- So do the items. -/
def ArePlainItems (depth : Nat) : List Json → Prop
  | [] => True
  | j :: rest => IsPlain depth j ∧ ArePlainItems depth rest

/-- So do the members. -/
def ArePlainMembers (depth : Nat) : List (String × Json) → Prop
  | [] => True
  | (_, j) :: rest => IsPlain depth j ∧ ArePlainMembers depth rest

end

mutual

/-- The indented text is a spelling. -/
theorem spells_writeIndented (depth : Nat) : (j : Json) → Spells j (writeIndented depth j)
  | null => rfl
  | bool _ => rfl
  | int _ => rfl
  | float _ => rfl
  | str _ => rfl
  | arr [] => ⟨[], isBlanks_nil, rfl⟩
  | arr (j :: rest) => ⟨_, _, _, isBlanks_newline _, spells_writeIndented _ j,
      spellsItems_writeIndented depth rest, rfl⟩
  | obj [] => ⟨[], isBlanks_nil, rfl⟩
  | obj ((name, j) :: rest) => ⟨newline (depth + 1), [], [' '], writeIndented (depth + 1) j,
      writeIndentedMembers depth rest, isBlanks_newline _, isBlanks_nil, isBlanks_space,
      spells_writeIndented _ j, spellsMembers_writeIndented depth rest, by simp [writeIndented]⟩

/-- So is that of the items after the first. -/
theorem spellsItems_writeIndented (depth : Nat) :
    (items : List Json) → SpellsItems items (writeIndentedItems depth items)
  | [] => ⟨_, isBlanks_newline depth, rfl⟩
  | j :: rest => ⟨[], _, _, _, isBlanks_nil, isBlanks_newline _, spells_writeIndented _ j,
      spellsItems_writeIndented depth rest, rfl⟩

/-- So is that of the members after the first. -/
theorem spellsMembers_writeIndented (depth : Nat) :
    (members : List (String × Json)) → SpellsMembers members (writeIndentedMembers depth members)
  | [] => ⟨_, isBlanks_newline depth, rfl⟩
  | (name, j) :: rest => ⟨[], newline (depth + 1), [], [' '], writeIndented (depth + 1) j,
      writeIndentedMembers depth rest, isBlanks_nil, isBlanks_newline _, isBlanks_nil,
      isBlanks_space, spells_writeIndented _ j,
      spellsMembers_writeIndented depth rest, by simp [writeIndentedMembers]⟩

end

/-- A plain value starts with a token that is neither blank nor closing. -/
theorem Spells.head {depth : Nat} {j : Json} {text : List Char} (h : Spells j text)
    (hplain : IsPlain depth j) : ∃ c rest, text = c :: rest ∧ isSpace c = false ∧ c ≠ ']' := by
  match j with
  | null => exact ⟨_, _, h, rfl, by decide⟩
  | bool true => exact ⟨_, _, h, rfl, by decide⟩
  | bool false => exact ⟨_, _, h, rfl, by decide⟩
  | str s => exact ⟨_, _, h, rfl, by decide⟩
  | arr [] =>
    obtain ⟨blanks, -, rfl⟩ := h
    exact ⟨_, _, rfl, rfl, by decide⟩
  | arr (j :: rest) =>
    obtain ⟨blanks, text, more, -, -, -, rfl⟩ := h
    exact ⟨_, _, rfl, rfl, by decide⟩
  | obj [] =>
    obtain ⟨blanks, -, rfl⟩ := h
    exact ⟨_, _, rfl, rfl, by decide⟩
  | obj ((name, j) :: rest) =>
    obtain ⟨blanks, before, after, text, more, -, -, -, -, -, rfl⟩ := h
    exact ⟨_, _, rfl, rfl, by decide⟩

/-- The blanks before a plain value are skipped, and nothing of it. -/
theorem Spells.skipSpaces_eq {depth : Nat} {j : Json} {text blanks : List Char} (h : Spells j text)
    (hplain : IsPlain depth j) (hblanks : IsBlanks blanks) (rest : List Char) :
    skipSpaces (blanks ++ text ++ rest) = text ++ rest := by
  obtain ⟨c, more, rfl, hc, -⟩ := h.head hplain
  rw [List.append_assoc, List.cons_append, skipSpaces_blanks hblanks hc]

/-- A value is spelled by some characters. -/
theorem Spells.length_pos {depth : Nat} {j : Json} {text : List Char} (h : Spells j text)
    (hplain : IsPlain depth j) : 0 < text.length := by
  obtain ⟨c, more, rfl, -⟩ := h.head hplain
  exact Nat.succ_pos _

/-- Items are spelled by some characters, the bracket being one. -/
theorem SpellsItems.length_pos {items : List Json} {text : List Char} (h : SpellsItems items text) :
    0 < text.length := by
  cases items with
  | nil =>
    obtain ⟨blanks, -, rfl⟩ := h
    simp
  | cons j rest =>
    obtain ⟨before, blanks, value, more, -, -, -, -, rfl⟩ := h
    simp only [List.length_append, List.length_cons]
    omega

/-- Members are spelled by some characters, the brace being one. -/
theorem SpellsMembers.length_pos {members : List (String × Json)} {text : List Char}
    (h : SpellsMembers members text) : 0 < text.length := by
  cases members with
  | nil =>
    obtain ⟨blanks, -, rfl⟩ := h
    simp
  | cons member rest =>
    obtain ⟨front, blanks, before, after, value, more, -, -, -, -, -, -, rfl⟩ := h
    simp only [List.length_append, List.length_cons]
    omega

section

variable {fuel depth : Nat} {cs rest rest' more left : List Char} {c : Char} {name : List Char}
  {j : Json}

/-- A value that begins with a quote is a string. -/
theorem readValue_string (hopen : skipSpaces cs = '"' :: rest)
    (hstring : readString rest = some (name, left)) :
    readValue (fuel + 1) depth cs = some (str (String.ofList name), left) := by
  rw [readValue, hopen]
  simp only [hstring, Option.bind_eq_bind, Option.bind_some]

/-- Two brackets with nothing between them are the empty array. -/
theorem readValue_noItems (hopen : skipSpaces cs = '[' :: rest)
    (hclose : skipSpaces rest = ']' :: left) :
    readValue (fuel + 1) (depth + 1) cs = some (arr [], left) := by
  rw [readValue, hopen]
  simp only [hclose]

/-- A bracket that none follows opens the items of an array. -/
theorem readValue_items (hopen : skipSpaces cs = '[' :: rest)
    (hfirst : skipSpaces rest = c :: more) (hc : c ≠ ']') :
    readValue (fuel + 1) (depth + 1) cs =
      (readItems fuel depth (c :: more)).map fun p => (arr p.1, p.2) := by
  rw [readValue, hopen]
  simp only [hfirst]
  split
  · contradiction
  · next h => cases h; contradiction
  · next h _ =>
    cases h
    cases readItems fuel depth (c :: more) <;> rfl

/-- The last item is followed by a bracket. -/
theorem readItems_last (hvalue : readValue fuel depth cs = some (j, rest))
    (hclose : skipSpaces rest = ']' :: left) :
    readItems (fuel + 1) depth cs = some ([j], left) := by
  rw [readItems, hvalue]
  simp only [Option.bind_eq_bind, Option.bind_some, hclose]

/-- An item that a comma follows is not the last one. -/
theorem readItems_more (hvalue : readValue fuel depth cs = some (j, rest))
    (hcomma : skipSpaces rest = ',' :: more) :
    readItems (fuel + 1) depth cs = (readItems fuel depth more).map fun p => (j :: p.1, p.2) := by
  rw [readItems, hvalue]
  simp only [Option.bind_eq_bind, Option.bind_some, hcomma]
  cases readItems fuel depth more <;> rfl

/-- Two braces with nothing between them are the empty object. -/
theorem readValue_noMembers (hopen : skipSpaces cs = '\x7b' :: rest)
    (hclose : skipSpaces rest = '\x7d' :: left) :
    readValue (fuel + 1) (depth + 1) cs = some (obj [], left) := by
  rw [readValue, hopen]
  simp only [hclose]

/-- A brace that none follows opens the members of an object. -/
theorem readValue_members (hopen : skipSpaces cs = '\x7b' :: rest)
    (hfirst : skipSpaces rest = c :: more) (hc : c ≠ '\x7d') :
    readValue (fuel + 1) (depth + 1) cs =
      (readMembers fuel depth (c :: more)).map fun p => (obj p.1, p.2) := by
  rw [readValue, hopen]
  simp only [hfirst]
  split
  · contradiction
  · next h => cases h; contradiction
  · next h _ =>
    cases h
    cases readMembers fuel depth (c :: more) <;> rfl

/-- The last member is a name, a colon and a value that a brace follows. -/
theorem readMembers_last {value : List Char} (hquote : skipSpaces cs = '"' :: rest)
    (hname : readString rest = some (name, more)) (hcolon : skipSpaces more = ':' :: value)
    (hvalue : readValue fuel depth value = some (j, rest'))
    (hclose : skipSpaces rest' = '\x7d' :: left) :
    readMembers (fuel + 1) depth cs = some ([(String.ofList name, j)], left) := by
  rw [readMembers, hquote]
  simp only [hname, hcolon, hvalue, hclose, Option.bind_eq_bind, Option.bind_some]

/-- A member that a comma follows is not the last one. -/
theorem readMembers_more {value : List Char} (hquote : skipSpaces cs = '"' :: rest)
    (hname : readString rest = some (name, more)) (hcolon : skipSpaces more = ':' :: value)
    (hvalue : readValue fuel depth value = some (j, rest'))
    (hcomma : skipSpaces rest' = ',' :: left) :
    readMembers (fuel + 1) depth cs =
      (readMembers fuel depth left).map fun p => ((String.ofList name, j) :: p.1, p.2) := by
  rw [readMembers, hquote]
  simp only [hname, hcolon, hvalue, hcomma, Option.bind_eq_bind, Option.bind_some]
  cases readMembers fuel depth left <;> rfl

end

mutual

/-- A spelling of a plain value is read as the value, if there are as many steps as characters. -/
theorem readValue_of_spells : (j : Json) → ∀ {fuel depth : Nat} {blanks text : List Char},
    Spells j text → IsPlain depth j → IsBlanks blanks → text.length ≤ fuel → ∀ rest,
    readValue fuel depth (blanks ++ text ++ rest) = some (j, rest)
  | j, 0, _, _, _, h, hplain, _, hfuel, _ => by
    have hpos := h.length_pos hplain
    omega
  | null, fuel + 1, depth, blanks, text, h, hplain, hblanks, _, rest => by
    rw [readValue, h.skipSpaces_eq hplain hblanks]
    cases h
    rfl
  | bool true, fuel + 1, depth, blanks, text, h, hplain, hblanks, _, rest => by
    rw [readValue, h.skipSpaces_eq hplain hblanks]
    cases h
    rfl
  | bool false, fuel + 1, depth, blanks, text, h, hplain, hblanks, _, rest => by
    rw [readValue, h.skipSpaces_eq hplain hblanks]
    cases h
    rfl
  | str s, fuel + 1, depth, blanks, text, h, hplain, hblanks, _, rest => by
    have hopen := h.skipSpaces_eq hplain hblanks rest
    have htext : text ++ rest = '"' :: (s.toList.flatMap escapeChar ++ '"' :: rest) := by
      have hs : text = writeString s := h
      rw [hs, writeString_append]
    rw [readValue_string (hopen.trans htext) (readString_writeString s rest), String.ofList_toList]
  | arr [], fuel + 1, depth + 1, blanks, text, h, hplain, hblanks, _, rest => by
    obtain ⟨inner, hinner, htext⟩ := id h
    have hopen : skipSpaces (blanks ++ text ++ rest) = '[' :: (inner ++ ']' :: rest) := by
      rw [h.skipSpaces_eq hplain hblanks, htext]
      simp
    exact readValue_noItems hopen (skipSpaces_blanks hinner rfl rest)
  | arr (j :: items), fuel + 1, depth + 1, blanks, text, h, hplain, hblanks, hfuel, rest => by
    obtain ⟨inner, value, more, hinner, hvalue, hmore, htext⟩ := id h
    have hopen : skipSpaces (blanks ++ text ++ rest) =
        '[' :: (inner ++ value ++ (more ++ rest)) := by
      rw [h.skipSpaces_eq hplain hblanks, htext]
      simp
    obtain ⟨hplain, hplains⟩ := hplain
    have hpos := hvalue.length_pos hplain
    have hpos' := hmore.length_pos
    have hlength : value.length + more.length ≤ fuel := by
      rw [htext] at hfuel
      simp only [List.length_append, List.length_cons] at hfuel
      omega
    obtain ⟨fuel, rfl⟩ : ∃ n, fuel = n + 1 := ⟨fuel - 1, by omega⟩
    have hread : readValue fuel depth ([] ++ value ++ (more ++ rest)) = some (j, more ++ rest) :=
      readValue_of_spells j hvalue hplain isBlanks_nil (by omega) (more ++ rest)
    have hitems := readItems_of_spells items hmore hplains (by omega) rest hread
    obtain ⟨c, tail, hhead, -, hc⟩ := hvalue.head hplain
    have hfirst := hvalue.skipSpaces_eq hplain hinner (more ++ rest)
    rw [List.nil_append] at hitems
    rw [hhead, List.cons_append] at hfirst hitems
    rw [hhead] at hopen
    rw [readValue_items hopen hfirst hc, hitems, Option.map_some]
  | obj [], fuel + 1, depth + 1, blanks, text, h, hplain, hblanks, _, rest => by
    obtain ⟨inner, hinner, htext⟩ := id h
    have hopen : skipSpaces (blanks ++ text ++ rest) = '\x7b' :: (inner ++ '\x7d' :: rest) := by
      rw [h.skipSpaces_eq hplain hblanks, htext]
      simp
    exact readValue_noMembers hopen (skipSpaces_blanks hinner rfl rest)
  | obj ((name, j) :: members), fuel + 1, depth + 1, blanks, text, h, hplain, hblanks, hfuel,
      rest => by
    obtain ⟨inner, before, behind, value, more, hinner, hbefore, hbehind, hvalue, hmore, htext⟩ :=
      id h
    have hopen : skipSpaces (blanks ++ text ++ rest) = '\x7b' :: (inner ++ (writeString name ++
        (before ++ ':' :: (behind ++ value ++ (more ++ rest))))) := by
      rw [h.skipSpaces_eq hplain hblanks, htext]
      simp
    obtain ⟨hplain, hplains⟩ := hplain
    have hlength : value.length + more.length + 1 ≤ fuel := by
      rw [htext] at hfuel
      simp only [List.length_append, List.length_cons] at hfuel
      omega
    obtain ⟨fuel, rfl⟩ : ∃ n, fuel = n + 1 := ⟨fuel - 1, by omega⟩
    have hread :
        readValue fuel depth (behind ++ value ++ (more ++ rest)) = some (j, more ++ rest) :=
      readValue_of_spells j hvalue hplain hbehind (by omega) (more ++ rest)
    have hname : skipSpaces (writeString name ++
        (before ++ ':' :: (behind ++ value ++ (more ++ rest)))) =
        writeString name ++ (before ++ ':' :: (behind ++ value ++ (more ++ rest))) :=
      skipSpaces_cons rfl _
    have hmembers := readMembers_of_spells members hmore hplains (by omega) rest name hbefore hname
      hread
    have hfirst := (skipSpaces_append hinner _).trans hname
    rw [writeString_append] at hopen hfirst hmembers
    rw [readValue_members hopen hfirst (by decide), hmembers, Option.map_some]

/-- So are the items behind one that was read. -/
theorem readItems_of_spells : (items : List Json) → ∀ {fuel depth : Nat} {more : List Char},
    SpellsItems items more → ArePlainItems depth items → more.length ≤ fuel → ∀ rest {cs j},
    readValue fuel depth cs = some (j, more ++ rest) →
    readItems (fuel + 1) depth cs = some (j :: items, rest)
  | [], fuel, depth, more, h, _, _, rest, cs, j, hread => by
    obtain ⟨blanks, hblanks, rfl⟩ := h
    refine readItems_last hread ?_
    rw [List.append_assoc]
    exact skipSpaces_blanks hblanks rfl rest
  | k :: items, fuel, depth, more, h, hplain, hfuel, rest, cs, j, hread => by
    obtain ⟨before, blanks, value, more', hbefore, hblanks, hvalue, hmore, rfl⟩ := h
    have hcomma : skipSpaces (before ++ ',' :: blanks ++ value ++ more' ++ rest) =
        ',' :: (blanks ++ value ++ (more' ++ rest)) := by
      simp only [List.append_assoc, List.cons_append]
      exact skipSpaces_blanks hbefore rfl _
    obtain ⟨hplain, hplains⟩ := hplain
    simp only [List.length_append, List.length_cons] at hfuel
    obtain ⟨fuel, rfl⟩ : ∃ n, fuel = n + 1 := ⟨fuel - 1, by omega⟩
    have hnext :
        readValue fuel depth (blanks ++ value ++ (more' ++ rest)) = some (k, more' ++ rest) :=
      readValue_of_spells k hvalue hplain hblanks (by omega) (more' ++ rest)
    have hitems := readItems_of_spells items hmore hplains (by omega) rest hnext
    rw [readItems_more hread hcomma, hitems, Option.map_some]

/-- So are members from one on whose value was read. -/
theorem readMembers_of_spells : (members : List (String × Json)) → ∀ {fuel depth : Nat}
    {more : List Char}, SpellsMembers members more → ArePlainMembers depth members →
    more.length ≤ fuel → ∀ rest name {cs before value j}, IsBlanks before →
    skipSpaces cs = writeString name ++ (before ++ ':' :: value) →
    readValue fuel depth value = some (j, more ++ rest) →
    readMembers (fuel + 1) depth cs = some ((name, j) :: members, rest)
  | [], fuel, depth, more, h, _, _, rest, name, cs, before, value, j, hbefore, hname, hread => by
    obtain ⟨blanks, hblanks, rfl⟩ := h
    rw [writeString_append] at hname
    have hcolon : skipSpaces (before ++ ':' :: value) = ':' :: value :=
      skipSpaces_blanks hbefore rfl value
    have hclose : skipSpaces (blanks ++ ['\x7d'] ++ rest) = '\x7d' :: rest := by
      rw [List.append_assoc]
      exact skipSpaces_blanks hblanks rfl rest
    rw [readMembers_last hname (readString_writeString name _) hcolon hread hclose,
      String.ofList_toList]
  | (other, k) :: members, fuel, depth, more, h, hplain, hfuel, rest, name, cs, before, value, j,
      hbefore, hname, hread => by
    obtain ⟨front, blanks, before', behind, value', more', hfront, hblanks, hbefore', hbehind,
      hvalue, hmore, rfl⟩ := h
    rw [writeString_append] at hname
    have hcolon : skipSpaces (before ++ ':' :: value) = ':' :: value :=
      skipSpaces_blanks hbefore rfl value
    have hcomma : skipSpaces (front ++ ',' :: blanks ++ writeString other ++ before' ++ ':' ::
        behind ++ value' ++ more' ++ rest) = ',' :: (blanks ++ (writeString other ++
        (before' ++ ':' :: (behind ++ value' ++ (more' ++ rest))))) := by
      simp only [List.append_assoc, List.cons_append]
      exact skipSpaces_blanks hfront rfl _
    have hother : skipSpaces (blanks ++ (writeString other ++
        (before' ++ ':' :: (behind ++ value' ++ (more' ++ rest))))) =
        writeString other ++ (before' ++ ':' :: (behind ++ value' ++ (more' ++ rest))) :=
      skipSpaces_blanks hblanks rfl _
    obtain ⟨hplain, hplains⟩ := hplain
    simp only [List.length_append, List.length_cons] at hfuel
    obtain ⟨fuel, rfl⟩ : ∃ n, fuel = n + 1 := ⟨fuel - 1, by omega⟩
    have hnext :
        readValue fuel depth (behind ++ value' ++ (more' ++ rest)) = some (k, more' ++ rest) :=
      readValue_of_spells k hvalue hplain hbehind (by omega) (more' ++ rest)
    have hmembers :=
      readMembers_of_spells members hmore hplains (by omega) rest other hbefore' hother
      hnext
    rw [readMembers_more hname (readString_writeString name _) hcolon hread hcomma, hmembers,
      Option.map_some, String.ofList_toList]

end

/-- A text that spells a plain value, with blanks around it, is read as the value. -/
theorem read?_of_spells {j : Json} {text before after : List Char} (h : Spells j text)
    (hplain : IsPlain maxDepth j) (hbefore : IsBlanks before) (hafter : IsBlanks after) :
    read? (before ++ text ++ after) = some j := by
  have hlength : text.length ≤ 2 * (before ++ text ++ after).length + 2 := by
    simp only [List.length_append]
    omega
  have hblanks : skipSpaces after = [] := by
    have hskip := skipSpaces_append hafter []
    rwa [List.append_nil] at hskip
  rw [read?, readValue_of_spells j h hplain hbefore hlength after]
  exact if_pos hblanks

end CatalogSync.Json
