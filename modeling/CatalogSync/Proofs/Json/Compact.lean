import CatalogSync.Proofs.Json.Spelling

/-!
# Compact JSON text

The compact text of a value is the spelling of it that has no blanks. Strings escape their control
characters and numbers have none, so the compact text of any value fits on one line.
-/

namespace CatalogSync.Json

mutual

/-- The compact text is a spelling. -/
theorem spells_write : (j : Json) → Spells j j.write
  | null => rfl
  | bool _ => rfl
  | int _ => rfl
  | float _ => rfl
  | str _ => rfl
  | arr [] => ⟨[], isBlanks_nil, rfl⟩
  | arr (j :: rest) => ⟨[], _, _, isBlanks_nil, spells_write j, spellsItems_write rest, rfl⟩
  | obj [] => ⟨[], isBlanks_nil, rfl⟩
  | obj ((name, j) :: rest) => ⟨[], [], [], _, _, isBlanks_nil, isBlanks_nil, isBlanks_nil,
      spells_write j, spellsMembers_write rest, by simp [write]⟩

/-- So is that of the items after the first. -/
theorem spellsItems_write : (items : List Json) → SpellsItems items (writeItems items)
  | [] => ⟨[], isBlanks_nil, rfl⟩
  | j :: rest => ⟨[], [], _, _, isBlanks_nil, isBlanks_nil, spells_write j, spellsItems_write rest,
      rfl⟩

/-- So is that of the members after the first. -/
theorem spellsMembers_write :
    (members : List (String × Json)) → SpellsMembers members (writeMembers members)
  | [] => ⟨[], isBlanks_nil, rfl⟩
  | (name, j) :: rest => ⟨[], [], [], [], _, _, isBlanks_nil, isBlanks_nil, isBlanks_nil,
      isBlanks_nil, spells_write j, spellsMembers_write rest, by simp [writeMembers]⟩

end

/-- The text holds no control character, a line break least of all. -/
def IsOneLine (cs : List Char) : Prop := ∀ c ∈ cs, 0x20 ≤ c.toNat

/-- The empty text is in one line. -/
@[simp] theorem isOneLine_nil : IsOneLine [] := by
  intro c hc
  cases hc

/-- A line may begin with anything but a control character. -/
@[simp] theorem isOneLine_cons (c : Char) (cs : List Char) :
    IsOneLine (c :: cs) ↔ 0x20 ≤ c.toNat ∧ IsOneLine cs :=
  List.forall_mem_cons

/-- Two texts are in one line if each of them is. -/
@[simp] theorem isOneLine_append (cs more : List Char) :
    IsOneLine (cs ++ more) ↔ IsOneLine cs ∧ IsOneLine more :=
  List.forall_mem_append

instance (cs : List Char) : Decidable (IsOneLine cs) :=
  List.decidableBAll (fun c : Char => 0x20 ≤ c.toNat) cs

/-- A line break is a control character. -/
theorem IsOneLine.newline_notMem {cs : List Char} (h : IsOneLine cs) : '\n' ∉ cs := by
  intro hmem
  exact absurd (h '\n' hmem) (by decide)

/-- What is no control character may be repeated. -/
theorem isOneLine_replicate (n : Nat) {c : Char} (hc : 0x20 ≤ c.toNat) :
    IsOneLine (List.replicate n c) := by
  intro d hd
  rw [List.eq_of_mem_replicate hd]
  exact hc

/-- The digits of a number are on one line. -/
theorem isOneLine_toDigits (n : Nat) : IsOneLine (Nat.toDigits 10 n) := by
  intro c hc
  have hdigit : c.isDigit = true := Nat.isDigit_of_mem_toDigits (by decide) (by decide) hc
  have hzero : 48 ≤ c.toNat := by
    simp only [Char.isDigit, Bool.and_eq_true, decide_eq_true_eq] at hdigit
    exact UInt32.le_iff_toNat_le.1 hdigit.1
  omega

/-- Hexadecimal digits are no control characters. -/
theorem isOneLine_hexadecimal (n : Nat) : 0x20 ≤ (Text.Hexadecimal.digit n).toNat := by
  have hall : ∀ m : Fin 16, 0x20 ≤ (Nat.digitChar m.val).toNat := by decide
  exact hall ⟨n % 16, Nat.mod_lt n (by decide)⟩

/-- A character is written in a string without control characters, itself or escaped. -/
theorem isOneLine_escapeChar (c : Char) : IsOneLine (escapeChar c) := by
  unfold escapeChar
  split
  · decide
  · split
    · decide
    · split
      · split
        iterate 5 decide
        simp [isOneLine_hexadecimal]
      · next hcontrol =>
        have hc : 0x20 ≤ c.toNat := Nat.le_of_not_lt hcontrol
        simp [hc]

/-- A string is written in one line: control characters are escaped. -/
theorem isOneLine_writeString (s : String) : IsOneLine (writeString s) := by
  have hchars : IsOneLine (s.toList.flatMap escapeChar) := by
    intro d hd
    obtain ⟨c, -, hd⟩ := List.mem_flatMap.1 hd
    exact isOneLine_escapeChar c d hd
  simp [writeString, hchars]

/-- A whole number is written in one line. -/
theorem isOneLine_writeInt (n : Int) : IsOneLine (writeInt n) := by
  unfold writeInt
  split
  · simp [isOneLine_toDigits]
  · exact isOneLine_toDigits _

/-- The digits of a double keep to one line, wherever the point stands. -/
theorem isOneLine_positional (l : Decimal.Layout) {digits : List Char} (h : IsOneLine digits)
    (exponent : Int) : IsOneLine (l.positional digits exponent) := by
  have hzeros (n : Nat) : IsOneLine (List.replicate n '0') := isOneLine_replicate n (by decide)
  have htake (n : Nat) : IsOneLine (digits.take n) := fun c hc => h c (List.mem_of_mem_take hc)
  have hdrop (n : Nat) : IsOneLine (digits.drop n) := fun c hc => h c (List.mem_of_mem_drop hc)
  unfold Decimal.Layout.positional
  split
  · split <;> simp [h, hzeros]
  · dsimp only
    split
    · simp [htake, hdrop]
    · simp [h, hzeros]

/-- So they do with an exponent. -/
theorem isOneLine_scientific (l : Decimal.Layout) {digits : List Char} (h : IsOneLine digits)
    (magnitude : Int) : IsOneLine (l.scientific digits magnitude) := by
  have hsign : IsOneLine (if magnitude < 0 then ['-'] else
      if l.signsExponent then ['+'] else []) := by
    split
    · decide
    · split <;> decide
  unfold Decimal.Layout.scientific
  rcases digits with _ | ⟨d, _ | ⟨e, rest⟩⟩
  · simp [hsign, isOneLine_toDigits]
  · simp [hsign, isOneLine_toDigits, (isOneLine_cons ..).1 h]
  · simp only [isOneLine_cons] at h
    simp [hsign, isOneLine_toDigits, h]

/-- A decimal is written in one line, with digits, signs and letters. -/
theorem isOneLine_writeFloat (x : Float) : IsOneLine (Decimal.Layout.json.write x) := by
  have hnull : IsOneLine "null".toList := by decide
  unfold Decimal.Layout.write
  split
  · split
    · exact hnull
    · split <;> exact hnull
  · next b _ =>
    have hsign : IsOneLine (if b.negative then ['-'] else []) := by
      split <;> decide
    dsimp only
    split
    · exact (isOneLine_append ..).2 ⟨hsign, isOneLine_positional _ (isOneLine_toDigits _) _⟩
    · exact (isOneLine_append ..).2 ⟨hsign, isOneLine_scientific _ (isOneLine_toDigits _) _⟩

mutual

/-- The compact text of a value is on one line. -/
theorem isOneLine_write : (j : Json) → IsOneLine j.write
  | null => by decide
  | bool true => by decide
  | bool false => by decide
  | int n => isOneLine_writeInt n
  | float x => isOneLine_writeFloat x
  | str s => isOneLine_writeString s
  | arr [] => by decide
  | arr (j :: rest) => by
    have hfirst := isOneLine_write j
    have hrest := isOneLine_writeItems rest
    simp [write, hfirst, hrest]
  | obj [] => by decide
  | obj ((name, j) :: rest) => by
    have hname := isOneLine_writeString name
    have hfirst := isOneLine_write j
    have hrest := isOneLine_writeMembers rest
    simp [write, hname, hfirst, hrest]

/-- Items are written in one line if each of them is. -/
theorem isOneLine_writeItems : (items : List Json) → IsOneLine (writeItems items)
  | [] => by decide
  | j :: rest => by
    have hfirst := isOneLine_write j
    have hrest := isOneLine_writeItems rest
    simp [writeItems, hfirst, hrest]

/-- Members are written in one line, names and values. -/
theorem isOneLine_writeMembers :
    (members : List (String × Json)) → IsOneLine (writeMembers members)
  | [] => by decide
  | (name, j) :: rest => by
    have hname := isOneLine_writeString name
    have hfirst := isOneLine_write j
    have hrest := isOneLine_writeMembers rest
    simp [writeMembers, hname, hfirst, hrest]

end

end CatalogSync.Json
