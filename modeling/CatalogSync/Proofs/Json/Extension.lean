import CatalogSync.Proofs.Json.Spelling
import Mathlib.Data.List.TakeWhile

/-!
# Reading with something behind

A value that was read is read again, and the same, whatever is put behind the text and however many
steps are added. Only a number that ends with the text might go on. So of two texts, one of which
begins with the other, an array or an object is read from both alike or from the longer one alone.
-/

namespace CatalogSync.Json

variable {more rest left cs : List Char}

/-- A run that ends within the text ends there whatever is behind the text. -/
theorem dropWhile_append_of_ne_nil {p : Char → Bool} (h : cs.dropWhile p ≠ []) (more : List Char) :
    (cs ++ more).dropWhile p = cs.dropWhile p ++ more := by
  rw [List.dropWhile_append, if_neg (by simpa using h)]

/-- Taking characters stops where it stopped, whatever is behind the text. -/
theorem takeWhile_append_of_ne_nil {p : Char → Bool} (h : cs.dropWhile p ≠ []) (more : List Char) :
    (cs ++ more).takeWhile p = cs.takeWhile p := by
  rw [List.takeWhile_append, if_neg]
  intro hlength
  refine h (List.eq_nil_of_length_eq_zero ?_)
  have hsplit := congrArg List.length (List.takeWhile_append_dropWhile (p := p) (l := cs))
  rw [List.length_append] at hsplit
  omega

/-- So does skipping spaces, if something is left. -/
theorem skipSpaces_extend {c : Char} (h : skipSpaces cs = c :: rest) (more : List Char) :
    skipSpaces (cs ++ more) = c :: (rest ++ more) := by
  have hne : skipSpaces cs ≠ [] := by
    rw [h]
    exact List.cons_ne_nil c rest
  rw [skipSpaces, dropWhile_append_of_ne_nil hne, ← skipSpaces, h, List.cons_append]

/-- The string that is read from these characters does not depend on what is behind it. -/
def StringExtends (more cs : List Char) : Prop :=
  ∀ ⦃s left : List Char⦄, readString cs = some (s, left) →
    readString (cs ++ more) = some (s, left ++ more)

/-- A high surrogate takes the low one with it. -/
theorem stringExtends_unit {a b c d : Char}
    (hpair : ∀ a' b' c' d' rest', rest = '\\' :: 'u' :: a' :: b' :: c' :: d' :: rest' →
      StringExtends more rest')
    (hrest : StringExtends more rest) :
    StringExtends more ('\\' :: 'u' :: a :: b :: c :: d :: rest) := by
  intro s left h
  rw [readString.eq_3] at h
  simp only [List.cons_append]
  rw [readString.eq_3]
  obtain ⟨n, hn, h⟩ := Option.bind_eq_some_iff.1 h
  rw [hn]
  change (if _ then _ else _) = _
  split at h
  · next hhigh =>
    rw [if_pos hhigh]
    split at h
    · obtain ⟨n', hn', h⟩ := Option.bind_eq_some_iff.1 h
      split at h
      · next hlow =>
        obtain ⟨⟨s', left'⟩, hread, h⟩ := Option.bind_eq_some_iff.1 h
        cases h
        simp only [List.cons_append, Option.bind_eq_bind, hn', Option.bind_some, if_pos hlow,
          hpair _ _ _ _ _ rfl hread]
      · cases h
    · cases h
  · next hhigh =>
    rw [if_neg hhigh]
    split at h
    · cases h
    · next hlow =>
      rw [if_neg hlow]
      obtain ⟨⟨s', left'⟩, hread, h⟩ := Option.bind_eq_some_iff.1 h
      cases h
      rw [hrest hread]
      rfl

/-- A string ends at its closing quote. -/
theorem readString_extend {s : List Char} (h : readString cs = some (s, left)) (more : List Char) :
    readString (cs ++ more) = some (s, left ++ more) := by
  induction cs using readString.induct generalizing s left with
  | case1 => cases h
  | case2 rest =>
    cases h
    rfl
  | case3 a b c d rest hpair hrest =>
    refine stringExtends_unit (fun a' b' c' d' rest' htext => ?_) (fun _ _ => hrest) h
    subst htext
    exact fun _ _ => hpair
  | case4 c rest hnot ih =>
    rw [readString.eq_4 c rest hnot] at h
    simp only [Option.bind_eq_bind, Option.bind_eq_some_iff] at h
    obtain ⟨c', hc', ⟨s', left'⟩, hrest, h⟩ := h
    cases h
    rw [List.cons_append, List.cons_append, readString_letter hc', ih hrest, Option.map_some]
  | case5 c rest hquote hunit hletter hcontrol =>
    rw [readString.eq_5 c rest hquote hunit hletter, if_pos hcontrol] at h
    cases h
  | case6 c rest hquote hunit hletter hcontrol ih =>
    rw [readString.eq_5 c rest hquote hunit hletter, if_neg hcontrol] at h
    obtain ⟨⟨s', left'⟩, hrest, h⟩ := Option.bind_eq_some_iff.1 h
    cases h
    have hbackslash : c ≠ '\\' := by
      rintro rfl
      cases rest with
      | nil => cases hrest
      | cons c' rest => exact hletter c' rest rfl rfl
    rw [List.cons_append, readString.eq_5 c (rest ++ more) hquote
      (fun _ _ _ _ _ h => absurd h hbackslash) fun _ _ h => absurd h hbackslash, if_neg hcontrol,
      ih hrest]
    rfl

/-- Digits that end within the text end there. -/
theorem readDigits_extend {significand n v : Nat} (h : readDigits significand cs = (v, n, left))
    (hleft : left ≠ []) (more : List Char) :
    readDigits significand (cs ++ more) = (v, n, left ++ more) := by
  induction cs generalizing significand v n with
  | nil =>
    cases h
    exact absurd rfl hleft
  | cons c rest ih =>
    rw [List.cons_append]
    simp only [readDigits] at h ⊢
    split at h
    · next hdigit =>
      rw [if_pos hdigit]
      rcases hrest : readDigits (10 * significand + (c.toNat - '0'.toNat)) rest with ⟨v', n', left'⟩
      rw [hrest] at h
      cases h
      rw [ih hrest]
    · next hdigit =>
      rw [if_neg hdigit]
      cases h
      rfl

section

variable {negative : Bool} {significand : Nat} {exponent : Int} {j : Json}

/-- The sign in front of a power, and what is behind it. -/
def powerSign : List Char → Bool × List Char
  | '+' :: r => (false, r)
  | '-' :: r => (true, r)
  | r => (false, r)

/-- The rest of a number behind the sign of its power. -/
def readPower (negative : Bool) (significand : Nat) (exponent : Int) (down : Bool)
    (cs : List Char) : Option (Json × List Char) :=
  let digits := cs.takeWhile Char.isDigit
  if digits.isEmpty then none
  else do
    let power : Int := Decimal.ofDigits 0 digits
    let j ← signedFloat? negative significand (if down then exponent - power else exponent + power)
    some (j, cs.dropWhile Char.isDigit)

/-- An exponent is read where its letter stands, and otherwise the number is at its end. -/
theorem readExponent_cons (negative : Bool) (significand : Nat) (exponent : Int) (c : Char)
    (rest : List Char) :
    readExponent negative significand exponent (c :: rest) =
      if c = 'e' ∨ c = 'E' then
        readPower negative significand exponent (powerSign rest).1 (powerSign rest).2
      else (signedFloat? negative significand exponent).map (·, c :: rest) := by
  unfold readExponent
  by_cases he : c = 'e' ∨ c = 'E'
  · rw [if_pos he]
    exact if_pos he
  · simp only [if_neg he]
    cases signedFloat? negative significand exponent <;> rfl

/-- The sign of a power is told by the first character. -/
theorem powerSign_append {c : Char} (rest more : List Char) :
    powerSign (c :: rest ++ more) =
      ((powerSign (c :: rest)).1, (powerSign (c :: rest)).2 ++ more) := by
  rw [List.cons_append]
  by_cases hplus : c = '+'
  · subst hplus
    rfl
  · by_cases hminus : c = '-'
    · subst hminus
      rfl
    · rw [powerSign.eq_3 (c :: rest) (by simp [hplus]) (by simp [hminus]),
        powerSign.eq_3 (c :: (rest ++ more)) (by simp [hplus]) (by simp [hminus])]
      rfl

/-- A power that something follows ends there, whatever is behind the text. -/
theorem readPower_extend {down : Bool}
    (h : readPower negative significand exponent down cs = some (j, left)) (hleft : left ≠ [])
    (more : List Char) :
    readPower negative significand exponent down (cs ++ more) = some (j, left ++ more) := by
  simp only [readPower] at h ⊢
  split at h
  · cases h
  · next hdigits =>
    obtain ⟨j', hj, h⟩ := Option.bind_eq_some_iff.1 h
    cases h
    rw [takeWhile_append_of_ne_nil hleft, dropWhile_append_of_ne_nil hleft, if_neg hdigits, hj]
    rfl

/-- Something is left only of something. -/
theorem ne_nil_of_readExponent
    (h : readExponent negative significand exponent cs = some (j, left)) (hleft : left ≠ []) :
    cs ≠ [] := by
  rintro rfl
  obtain ⟨_, -, h⟩ := Option.bind_eq_some_iff.1 h
  cases h
  exact hleft rfl

/-- So does an exponent, with a power or without one. -/
theorem readExponent_extend (h : readExponent negative significand exponent cs = some (j, left))
    (hleft : left ≠ []) (more : List Char) :
    readExponent negative significand exponent (cs ++ more) = some (j, left ++ more) := by
  cases cs with
  | nil => exact absurd rfl (ne_nil_of_readExponent h hleft)
  | cons c rest =>
    rw [List.cons_append, readExponent_cons]
    rw [readExponent_cons] at h
    split at h
    · next he =>
      rw [if_pos he]
      cases rest with
      | nil => cases h
      | cons d rest =>
        rw [powerSign_append]
        exact readPower_extend h hleft more
    · next he =>
      rw [if_neg he]
      obtain ⟨j', hj, h⟩ := Option.map_eq_some_iff.1 h
      cases h
      rw [hj]
      rfl

/-- So does a fraction, whatever is left of the number behind it. -/
theorem readFraction_extend (h : readFraction negative significand exponent cs = some (j, left))
    (hleft : left ≠ []) (more : List Char) :
    readFraction negative significand exponent (cs ++ more) = some (j, left ++ more) := by
  unfold readFraction at h ⊢
  split at h
  · next hdigit =>
    have hhead : (cs ++ more).head? = cs.head? := by
      cases cs with
      | nil => cases hdigit
      | cons c rest => rfl
    rw [hhead, if_pos hdigit]
    rcases hdigits : readDigits significand cs with ⟨v, used, rest⟩
    rw [hdigits] at h
    have hrest : rest.dropWhile Char.isDigit ≠ [] := ne_nil_of_readExponent h hleft
    have hne : rest ≠ [] := by
      rintro rfl
      exact hrest rfl
    rw [readDigits_extend hdigits hne]
    simp only
    rw [dropWhile_append_of_ne_nil hrest]
    exact readExponent_extend h hleft more
  · cases h

/-- The rest of a number behind its whole digits, of which some may be beyond the significand. -/
def readBehind (negative : Bool) (significand extra : Nat) (cs : List Char) :
    Option (Json × List Char) :=
  match cs with
  | '.' :: fraction => readFraction negative significand extra fraction
  | c :: _ =>
    if c = 'e' ∨ c = 'E' ∨ 0 < extra then readExponent negative significand extra cs
    else some (wholeNumber negative significand, cs)
  | [] =>
    if 0 < extra then readExponent negative significand extra []
    else some (wholeNumber negative significand, [])

/-- An unsigned number begins with a digit, and with a zero only if it is the only one. -/
theorem readUnsigned_cons (negative : Bool) (c : Char) (rest : List Char) :
    readUnsigned negative (c :: rest) =
      if ¬c.isDigit then none
      else if c = '0' ∧ (rest.head?.map Char.isDigit).getD false then none
      else
        let (significand, _, behind) := readDigits 0 (c :: rest)
        readBehind negative significand (behind.takeWhile Char.isDigit).length
          (behind.dropWhile Char.isDigit) := rfl

/-- Behind the digits of a number that something follows, something is left. -/
theorem ne_nil_of_readBehind {extra : Nat}
    (h : readBehind negative significand extra cs = some (j, left)) (hleft : left ≠ []) :
    cs ≠ [] := by
  rintro rfl
  rw [readBehind] at h
  split at h
  · exact ne_nil_of_readExponent h hleft rfl
  · cases h
    exact hleft rfl

/-- What is behind the digits of a number that something follows is read as it was. -/
theorem readBehind_extend {extra : Nat}
    (h : readBehind negative significand extra cs = some (j, left)) (hleft : left ≠ [])
    (more : List Char) :
    readBehind negative significand extra (cs ++ more) = some (j, left ++ more) := by
  cases cs with
  | nil => exact absurd rfl (ne_nil_of_readBehind h hleft)
  | cons c rest =>
    rw [List.cons_append]
    by_cases hpoint : c = '.'
    · subst hpoint
      exact readFraction_extend h hleft more
    · rw [readBehind.eq_2 _ _ _ _ _ hpoint] at h ⊢
      split at h
      · next he =>
        rw [if_pos he]
        exact readExponent_extend h hleft more
      · next he =>
        rw [if_neg he]
        cases h
        rfl

/-- An unsigned number that something follows is read as it was. -/
theorem readUnsigned_extend (h : readUnsigned negative cs = some (j, left)) (hleft : left ≠ [])
    (more : List Char) : readUnsigned negative (cs ++ more) = some (j, left ++ more) := by
  cases cs with
  | nil => cases h
  | cons c rest =>
    rw [List.cons_append]
    rw [readUnsigned_cons] at h ⊢
    split at h
    · cases h
    · next hdigit =>
      rw [if_neg hdigit]
      split at h
      · cases h
      · next hzero =>
        rcases hdigits : readDigits 0 (c :: rest) with ⟨v, used, behind⟩
        simp only [hdigits] at h
        have hbehind : behind.dropWhile Char.isDigit ≠ [] := ne_nil_of_readBehind h hleft
        have hne : behind ≠ [] := by
          rintro rfl
          exact hbehind rfl
        have hrest : rest ≠ [] := by
          rintro rfl
          refine hbehind (List.dropWhile_eq_nil_iff.2 fun d hd => ?_)
          simp only [readDigits] at hdigits
          split at hdigits <;> cases hdigits
          · cases hd
          · rw [List.mem_singleton.1 hd]
            exact not_not.1 hdigit
        have hhead : (rest ++ more).head? = rest.head? := by
          cases rest with
          | nil => exact absurd rfl hrest
          | cons d rest => rfl
        rw [hhead, if_neg hzero, ← List.cons_append, readDigits_extend hdigits hne]
        simp only
        rw [dropWhile_append_of_ne_nil hbehind, takeWhile_append_of_ne_nil hbehind]
        exact readBehind_extend h hleft more

/-- A number that something follows is read as it was. -/
theorem readNumber_extend (h : readNumber cs = some (j, left)) (hleft : left ≠ [])
    (more : List Char) : readNumber (cs ++ more) = some (j, left ++ more) := by
  cases cs with
  | nil => cases h
  | cons c rest =>
    rw [List.cons_append]
    by_cases hminus : c = '-'
    · subst hminus
      exact readUnsigned_extend h hleft more
    · rw [readNumber.eq_2 _ (by simp [hminus])] at h ⊢
      exact readUnsigned_extend h hleft more

/-- A number starts with its sign or a digit. -/
theorem head_of_readNumber (h : readNumber cs = some (j, left)) :
    ∃ c rest, cs = c :: rest ∧ (c = '-' ∨ c.isDigit) := by
  cases cs with
  | nil => cases h
  | cons c rest =>
    refine ⟨c, rest, rfl, ?_⟩
    by_cases hminus : c = '-'
    · exact .inl hminus
    · rw [readNumber.eq_2 _ (by simp [hminus]), readUnsigned_cons] at h
      split at h
      · cases h
      · next hdigit => exact .inr (not_not.1 hdigit)

end

section

variable {fuel fuel' depth : Nat} {c : Char} {j : Json}

/-- A value that begins like a number is one. -/
theorem readValue_number (hopen : skipSpaces cs = c :: rest) (hc : c = '-' ∨ c.isDigit) :
    readValue (fuel + 1) depth cs = readNumber (c :: rest) := by
  rw [readValue, hopen]
  split
  iterate 6
    next h =>
      cases h
      exact absurd hc (by decide)
  rfl

/-- A value that is read in so many steps is read in more, whatever is behind the text, unless it
may be a number and nothing is left. -/
def ValuesExtend (fuel : Nat) : Prop :=
  ∀ ⦃fuel' depth : Nat⦄ ⦃cs : List Char⦄ ⦃j : Json⦄ ⦃left : List Char⦄, fuel ≤ fuel' →
    readValue fuel depth cs = some (j, left) →
    (left ≠ [] ∨ ∃ rest, skipSpaces cs = '\x7b' :: rest) → ∀ more,
    readValue fuel' depth (cs ++ more) = some (j, left ++ more)

/-- So are items up to their bracket. -/
def ItemsExtend (fuel : Nat) : Prop :=
  ∀ ⦃fuel' depth : Nat⦄ ⦃cs : List Char⦄ ⦃items : List Json⦄ ⦃left : List Char⦄, fuel ≤ fuel' →
    readItems fuel depth cs = some (items, left) → ∀ more,
    readItems fuel' depth (cs ++ more) = some (items, left ++ more)

/-- So are members up to their brace. -/
def MembersExtend (fuel : Nat) : Prop :=
  ∀ ⦃fuel' depth : Nat⦄ ⦃cs : List Char⦄ ⦃members : List (String × Json)⦄ ⦃left : List Char⦄,
    fuel ≤ fuel' → readMembers fuel depth cs = some (members, left) → ∀ more,
    readMembers fuel' depth (cs ++ more) = some (members, left ++ more)

/-- Items are read up to a bracket, so there is something to read. -/
theorem ne_nil_of_readItems {items : List Json}
    (h : readItems fuel depth cs = some (items, left)) : skipSpaces cs ≠ [] := by
  intro hempty
  cases fuel with
  | zero => cases h
  | succ fuel =>
    obtain ⟨_, hvalue, -⟩ := Option.bind_eq_some_iff.1 h
    cases fuel with
    | zero => cases hvalue
    | succ fuel =>
      rw [readValue, hempty] at hvalue
      cases hvalue

/-- Members are read up to a brace, so there is something to read. -/
theorem ne_nil_of_readMembers {members : List (String × Json)}
    (h : readMembers fuel depth cs = some (members, left)) : skipSpaces cs ≠ [] := by
  intro hempty
  cases fuel with
  | zero => cases h
  | succ fuel =>
    rw [readMembers, hempty] at h
    cases h

/-- An array is read as it was if its items are. -/
theorem ItemsExtend.array (hitems : ItemsExtend fuel) (hfuel : fuel ≤ fuel')
    (hopen : skipSpaces cs = '[' :: rest) (h : readValue (fuel + 1) depth cs = some (j, left))
    (more : List Char) : readValue (fuel' + 1) depth (cs ++ more) = some (j, left ++ more) := by
  rw [readValue] at h
  simp only [hopen] at h
  split at h
  · cases h
  · next hclose =>
    cases h
    exact readValue_noItems (skipSpaces_extend hopen more) (skipSpaces_extend hclose more)
  · next depth _ hnotclosing =>
    obtain ⟨⟨items, left'⟩, hread, h⟩ := Option.bind_eq_some_iff.1 h
    cases h
    cases hfirst : skipSpaces rest with
    | nil =>
      rw [hfirst] at hread
      exact absurd rfl (ne_nil_of_readItems hread)
    | cons c rest' =>
      rw [hfirst] at hread hnotclosing
      have hc : c ≠ ']' := by
        rintro rfl
        exact hnotclosing _ rfl
      rw [readValue_items (skipSpaces_extend hopen more) (skipSpaces_extend hfirst more) hc,
        ← List.cons_append, hitems hfuel hread more, Option.map_some]

/-- An object is read as it was if its members are. -/
theorem MembersExtend.object (hmembers : MembersExtend fuel) (hfuel : fuel ≤ fuel')
    (hopen : skipSpaces cs = '\x7b' :: rest) (h : readValue (fuel + 1) depth cs = some (j, left))
    (more : List Char) : readValue (fuel' + 1) depth (cs ++ more) = some (j, left ++ more) := by
  rw [readValue] at h
  simp only [hopen] at h
  split at h
  · cases h
  · next hclose =>
    cases h
    exact readValue_noMembers (skipSpaces_extend hopen more) (skipSpaces_extend hclose more)
  · next depth _ hnotclosing =>
    obtain ⟨⟨members, left'⟩, hread, h⟩ := Option.bind_eq_some_iff.1 h
    cases h
    cases hfirst : skipSpaces rest with
    | nil =>
      rw [hfirst] at hread
      exact absurd rfl (ne_nil_of_readMembers hread)
    | cons c rest' =>
      rw [hfirst] at hread hnotclosing
      have hc : c ≠ '\x7d' := by
        rintro rfl
        exact hnotclosing _ rfl
      rw [readValue_members (skipSpaces_extend hopen more) (skipSpaces_extend hfirst more) hc,
        ← List.cons_append, hmembers hfuel hread more, Option.map_some]

/-- Values are read as they were if the items and members in them are: of scalars, only a number may
go on behind the text. -/
theorem ItemsExtend.values (hitems : ItemsExtend fuel) (hmembers : MembersExtend fuel) :
    ValuesExtend (fuel + 1) := by
  intro fuel' depth cs j left hfuel hvalue hends more
  obtain ⟨fuel', rfl⟩ : ∃ n, fuel' = n + 1 := ⟨fuel' - 1, by omega⟩
  have hfuel : fuel ≤ fuel' := Nat.le_of_succ_le_succ hfuel
  have h := hvalue
  rw [readValue] at h
  split at h
  · next hopen =>
    cases h
    rw [readValue, skipSpaces_extend hopen more]
    rfl
  · next hopen =>
    cases h
    rw [readValue, skipSpaces_extend hopen more]
    rfl
  · next hopen =>
    cases h
    rw [readValue, skipSpaces_extend hopen more]
    rfl
  · next hopen =>
    obtain ⟨⟨s, left'⟩, hstring, h⟩ := Option.bind_eq_some_iff.1 h
    cases h
    exact readValue_string (skipSpaces_extend hopen more) (readString_extend hstring more)
  · next hopen => exact hitems.array hfuel hopen hvalue more
  · next hopen => exact hmembers.object hfuel hopen hvalue more
  · next hnobrace =>
    obtain ⟨c, rest, hopen, hc⟩ := head_of_readNumber h
    have hleft : left ≠ [] := by
      rcases hends with hleft | ⟨rest, hbrace⟩
      · exact hleft
      · exact absurd hbrace (hnobrace rest)
    rw [readValue_number (skipSpaces_extend hopen more) hc, ← List.cons_append]
    rw [hopen] at h
    exact readNumber_extend h hleft more

/-- Items are read as they were if each of their values is: behind each, a comma or the bracket is
left. -/
theorem ValuesExtend.items (hvalues : ValuesExtend fuel) (hitems : ItemsExtend fuel) :
    ItemsExtend (fuel + 1) := by
  intro fuel' depth cs items left hfuel h more
  obtain ⟨fuel', rfl⟩ : ∃ n, fuel' = n + 1 := ⟨fuel' - 1, by omega⟩
  obtain ⟨⟨j, rest⟩, hvalue, h⟩ := Option.bind_eq_some_iff.1 h
  have hfuel : fuel ≤ fuel' := Nat.le_of_succ_le_succ hfuel
  have hextend (hrest : skipSpaces rest ≠ []) :
      readValue fuel' depth (cs ++ more) = some (j, rest ++ more) := by
    refine hvalues hfuel hvalue (.inl ?_) more
    rintro rfl
    exact hrest rfl
  dsimp only at h
  split at h
  · next hcomma =>
    obtain ⟨⟨items', left'⟩, hread, h⟩ := Option.bind_eq_some_iff.1 h
    cases h
    rw [readItems_more (hextend (by simp [hcomma])) (skipSpaces_extend hcomma more),
      hitems hfuel hread more, Option.map_some]
  · next hclose =>
    cases h
    exact readItems_last (hextend (by simp [hclose])) (skipSpaces_extend hclose more)
  · cases h

/-- Members are read as they were if each of their values is: behind each, a comma or the brace is
left. -/
theorem ValuesExtend.members (hvalues : ValuesExtend fuel) (hmembers : MembersExtend fuel) :
    MembersExtend (fuel + 1) := by
  intro fuel' depth cs members left hfuel h more
  obtain ⟨fuel', rfl⟩ : ∃ n, fuel' = n + 1 := ⟨fuel' - 1, by omega⟩
  have hfuel : fuel ≤ fuel' := Nat.le_of_succ_le_succ hfuel
  rw [readMembers] at h
  split at h
  · next hquote =>
    obtain ⟨⟨name, rest⟩, hname, h⟩ := Option.bind_eq_some_iff.1 h
    dsimp only at h
    split at h
    · next value hcolon =>
      obtain ⟨⟨j, rest'⟩, hvalue, h⟩ := Option.bind_eq_some_iff.1 h
      have hextend (hrest : skipSpaces rest' ≠ []) :
          readValue fuel' depth (value ++ more) = some (j, rest' ++ more) := by
        refine hvalues hfuel hvalue (.inl ?_) more
        rintro rfl
        exact hrest rfl
      dsimp only at h
      split at h
      · next hcomma =>
        obtain ⟨⟨members', left'⟩, hread, h⟩ := Option.bind_eq_some_iff.1 h
        cases h
        rw [readMembers_more (skipSpaces_extend hquote more) (readString_extend hname more)
          (skipSpaces_extend hcolon more) (hextend (by simp [hcomma]))
          (skipSpaces_extend hcomma more),
          hmembers hfuel hread more, Option.map_some]
      · next hclose =>
        cases h
        exact readMembers_last (skipSpaces_extend hquote more) (readString_extend hname more)
          (skipSpaces_extend hcolon more) (hextend (by simp [hclose]))
          (skipSpaces_extend hclose more)
      · cases h
    · cases h
  · cases h

/-- Whatever is read in so many steps is read in more, whatever is behind the text. -/
theorem all_extend (fuel : Nat) : ValuesExtend fuel ∧ ItemsExtend fuel ∧ MembersExtend fuel := by
  induction fuel with
  | zero =>
    refine ⟨?_, ?_, ?_⟩
    · intro _ _ _ _ _ _ h
      cases h
    · intro _ _ _ _ _ _ h
      cases h
    · intro _ _ _ _ _ _ h
      cases h
  | succ fuel ih =>
    obtain ⟨hvalues, hitems, hmembers⟩ := ih
    exact ⟨hitems.values hmembers, hvalues.items hitems, hvalues.members hmembers⟩

end

/-- A text that is cut out of the beginning of a spelled object, and can be read, has all of the
object. -/
theorem whole_of_read? {members : List (String × Json)} {text front more after : List Char}
    {j : Json} (h : Spells (obj members) text) (hplain : IsPlain maxDepth (obj members))
    (hcut : front ++ more = text ++ after) (hread : read? front = some j) :
    ∃ behind, front = text ++ behind ∧ after = behind ++ more := by
  obtain ⟨tail, htext⟩ : ∃ tail, text = '\x7b' :: tail := by
    cases members with
    | nil =>
      obtain ⟨blanks, -, rfl⟩ := h
      exact ⟨_, rfl⟩
    | cons member rest =>
      obtain ⟨blanks, before, behind, value, others, -, -, -, -, -, rfl⟩ := h
      exact ⟨_, rfl⟩
  cases front with
  | nil => cases hread
  | cons c front =>
    obtain ⟨rfl, -⟩ : c = '\x7b' ∧ front ++ more = tail ++ after := by
      rw [htext] at hcut
      exact List.cons.inj hcut
    unfold read? at hread
    split at hread
    · next j' left hvalue =>
      have hbrace : ∃ rest, skipSpaces ('\x7b' :: front) = '\x7b' :: rest :=
        ⟨front, skipSpaces_cons rfl front⟩
      have hlonger := (all_extend _).1 (Nat.le_max_left _ text.length) hvalue (.inr hbrace) more
      have hwhole := readValue_of_spells (obj members) h hplain isBlanks_nil
        (Nat.le_max_right (2 * ('\x7b' :: front).length + 2) text.length) after
      rw [hcut] at hlonger
      obtain ⟨-, hleft⟩ := Prod.mk.inj (Option.some.inj (hwhole.symm.trans hlonger))
      refine ⟨left, ?_, hleft⟩
      rw [hleft, ← List.append_assoc] at hcut
      exact List.append_cancel_right hcut
    · cases hread

end CatalogSync.Json
