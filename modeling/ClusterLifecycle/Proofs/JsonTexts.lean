import ClusterLifecycle.Proofs.JsonGrammar
import Mathlib.Data.List.TakeWhile

/-!
The reader of JSON texts takes no other texts than those that hold a document by the grammar. What it has
read in front of the rest spells what it returns, whether it is a string, a numeral or a whole value.
-/

namespace ClusterLifecycle.Json

open Text

/-! ### Strings -/

theorem writes_of_read {text rest : List Char} {pieces : List Piece} (read : readPieces text = some (pieces, rest)) :
    ∃ front, Writes pieces front ∧ text = front ++ '"' :: rest := by
  fun_induction readPieces text generalizing pieces rest with
  | case1 => cases read
  | case2 tail =>
    obtain ⟨rfl, rfl⟩ := Prod.mk.inj (Option.some.inj read)
    exact ⟨[], .nil, rfl⟩
  | case3 a b c d tail ih =>
    obtain ⟨unit, value, read⟩ := Option.bind_eq_some_iff.1 read
    obtain ⟨⟨more, left⟩, later, same⟩ := Option.bind_eq_some_iff.1 read
    obtain ⟨rfl, rfl⟩ := Prod.mk.inj (Option.some.inj same)
    obtain ⟨front, writes, rfl⟩ := ih later
    exact ⟨_, .unit value writes, rfl⟩
  | case4 e tail _ ih =>
    obtain ⟨c, short, read⟩ := Option.bind_eq_some_iff.1 read
    obtain ⟨⟨more, left⟩, later, same⟩ := Option.bind_eq_some_iff.1 read
    obtain ⟨rfl, rfl⟩ := Prod.mk.inj (Option.some.inj same)
    obtain ⟨front, writes, rfl⟩ := ih later
    exact ⟨_, .short short writes, rfl⟩
  | case5 => cases read
  | case6 c tail noQuote _ noEscape visible ih =>
    obtain ⟨⟨more, left⟩, later, same⟩ := Option.bind_eq_some_iff.1 read
    obtain ⟨rfl, rfl⟩ := Prod.mk.inj (Option.some.inj same)
    -- a backslash at the very end escapes nothing, and there is no quote behind it
    have noBackslash : c ≠ '\\' := by
      rintro rfl
      cases tail with
      | nil => cases later
      | cons e tail => exact noEscape e tail rfl rfl
    obtain ⟨front, writes, rfl⟩ := ih later
    exact ⟨_, .plain noQuote noBackslash visible writes, rfl⟩

theorem spellsString_of_read {text rest : List Char} {content : Option String}
    (read : readString text = some (content, rest)) :
    ∃ front, SpellsString content ('"' :: front) ∧ text = front ++ rest := by
  obtain ⟨⟨pieces, left⟩, found, same⟩ := Option.bind_eq_some_iff.1 read
  obtain ⟨rfl, rfl⟩ := Prod.mk.inj (Option.some.inj same)
  obtain ⟨front, writes, rfl⟩ := writes_of_read found
  exact ⟨_, .pieces writes, by simp⟩

/-! ### Numerals -/

theorem digits_eq (text : List Char) :
    text = (digits text).1 ++ (digits text).2 ∧ ∀ c ∈ (digits text).1, isDecimal c = true := by
  rw [digits, List.span_eq_takeWhile_dropWhile]
  exact ⟨(List.takeWhile_append_dropWhile ..).symm, fun c member => List.mem_takeWhile_imp member⟩

theorem readWhole_cases {text whole rest : List Char} (read : readWhole text = some (whole, rest)) :
    text = whole ++ rest ∧ (∀ c ∈ whole, isDecimal c = true) ∧
      (whole = ['0'] ∨ whole.head? ≠ some '0' ∧ whole ≠ []) := by
  unfold readWhole at read
  split at read
  · obtain ⟨rfl, rfl⟩ := Prod.mk.inj (Option.some.inj read)
    refine ⟨rfl, fun c member => ?_, .inl rfl⟩
    rw [List.mem_singleton.1 member]
    rfl
  · rename_i noZero
    obtain ⟨split, decimal⟩ := digits_eq text
    generalize digits text = parts at read split decimal
    obtain ⟨front, back⟩ := parts
    dsimp only at read split decimal
    split at read
    · cases read
    · rename_i some
      obtain ⟨rfl, rfl⟩ := Prod.mk.inj (Option.some.inj read)
      refine ⟨split, decimal, .inr ⟨?_, by simpa using some⟩⟩
      intro zero
      cases front with
      | nil => cases zero
      | cons c front =>
        obtain rfl := Option.some.inj zero
        exact noZero _ split

theorem readFraction_cases {text fraction rest : List Char} (read : readFraction text = some (fraction, rest)) :
    text = fractionText fraction ++ rest ∧ ∀ c ∈ fraction, isDecimal c = true := by
  unfold readFraction at read
  split at read
  · rename_i tail
    obtain ⟨split, decimal⟩ := digits_eq tail
    generalize digits tail = parts at read split decimal
    obtain ⟨front, back⟩ := parts
    dsimp only at read split decimal
    split at read
    · cases read
    · rename_i some
      obtain ⟨rfl, rfl⟩ := Prod.mk.inj (Option.some.inj read)
      refine ⟨?_, decimal⟩
      rw [fractionText, if_neg some, split]
      rfl
  · obtain ⟨rfl, rfl⟩ := Prod.mk.inj (Option.some.inj read)
    exact ⟨rfl, by simp⟩

theorem readExponentDigits_cases {negative : Bool} {text rest : List Char} {exponent : Option (Bool × List Char)}
    (read : readExponentDigits negative text = some (exponent, rest)) :
    ∃ front, exponent = some (negative, front) ∧ text = front ++ rest ∧ front ≠ [] ∧
      ∀ c ∈ front, isDecimal c = true := by
  obtain ⟨split, decimal⟩ := digits_eq text
  rw [readExponentDigits] at read
  generalize digits text = parts at read split decimal
  obtain ⟨front, back⟩ := parts
  dsimp only at read split decimal
  split at read
  · cases read
  · rename_i some
    obtain ⟨rfl, rfl⟩ := Prod.mk.inj (Option.some.inj read)
    exact ⟨front, rfl, split, by simpa using some, decimal⟩

theorem writesExponent_of_read {text rest : List Char} {exponent : Option (Bool × List Char)}
    (read : readExponent text = some (exponent, rest)) :
    ∃ front, WritesExponent exponent front ∧ text = front ++ rest ∧
      ∀ negative digits, exponent = some (negative, digits) → digits ≠ [] ∧ ∀ c ∈ digits, isDecimal c = true := by
  unfold readExponent at read
  split at read
  · rename_i c tail
    split at read
    · rename_i marked
      split at read
      · obtain ⟨front, rfl, rfl, some, decimal⟩ := readExponentDigits_cases read
        exact ⟨_, .plus marked front, rfl, by rintro _ _ ⟨⟩; exact ⟨some, decimal⟩⟩
      · obtain ⟨front, rfl, rfl, some, decimal⟩ := readExponentDigits_cases read
        exact ⟨_, .minus marked front, rfl, by rintro _ _ ⟨⟩; exact ⟨some, decimal⟩⟩
      · obtain ⟨front, rfl, rfl, some, decimal⟩ := readExponentDigits_cases read
        exact ⟨_, .unsigned marked front, rfl, by rintro _ _ ⟨⟩; exact ⟨some, decimal⟩⟩
    · obtain ⟨rfl, rfl⟩ := Prod.mk.inj (Option.some.inj read)
      exact ⟨[], .none, rfl, nofun⟩
  · obtain ⟨rfl, rfl⟩ := Prod.mk.inj (Option.some.inj read)
    exact ⟨[], .none, rfl, nofun⟩

theorem readMagnitude_cases {negative : Bool} {text rest : List Char} {n : Numeral}
    (read : readMagnitude negative text = some (n, rest)) :
    ∃ front, n.Grammatical ∧ n.negative = negative ∧ WritesExponent n.exponent front ∧
      text = n.whole ++ (fractionText n.fraction ++ front) ++ rest := by
  obtain ⟨⟨whole, afterWhole⟩, wholeRead, read⟩ := Option.bind_eq_some_iff.1 read
  obtain ⟨⟨fraction, afterFraction⟩, fractionRead, read⟩ := Option.bind_eq_some_iff.1 read
  obtain ⟨⟨exponent, left⟩, exponentRead, same⟩ := Option.bind_eq_some_iff.1 read
  obtain ⟨rfl, rfl⟩ := Prod.mk.inj (Option.some.inj same)
  obtain ⟨rfl, wholeDecimal, shape⟩ := readWhole_cases wholeRead
  obtain ⟨rfl, fractionDecimal⟩ := readFraction_cases fractionRead
  obtain ⟨front, writes, rfl, exponentDecimal⟩ := writesExponent_of_read exponentRead
  exact ⟨front, ⟨shape, wholeDecimal, fractionDecimal, exponentDecimal⟩, rfl, writes, by simp⟩

theorem spellsNumeral_of_read {text rest : List Char} {n : Numeral} (read : readNumeral text = some (n, rest)) :
    ∃ front, SpellsNumeral n front ∧ text = front ++ rest := by
  unfold readNumeral at read
  split at read
  · obtain ⟨front, grammatical, negative, exponent, rfl⟩ := readMagnitude_cases read
    exact ⟨_, .written grammatical exponent, by rw [negative]; rfl⟩
  · obtain ⟨front, grammatical, negative, exponent, rfl⟩ := readMagnitude_cases read
    exact ⟨_, .written grammatical exponent, by rw [negative]; rfl⟩

/-! ### Values -/

theorem exists_blank {text token : List Char} (found : skipSpace text = token) :
    ∃ space, Blank space ∧ text = space ++ token := by
  subst found
  exact ⟨text.takeWhile isSpace, fun _ member => List.mem_takeWhile_imp member,
    (List.takeWhile_append_dropWhile ..).symm⟩

/-- How a value begins, and what it is read as. -/
inductive Begins (fuel : Nat) : List Char → Document → List Char → Prop where
  | null (rest : List Char) : Begins fuel ('n' :: 'u' :: 'l' :: 'l' :: rest) .null rest
  | yes (rest : List Char) : Begins fuel ('t' :: 'r' :: 'u' :: 'e' :: rest) (.bool true) rest
  | no (rest : List Char) : Begins fuel ('f' :: 'a' :: 'l' :: 's' :: 'e' :: rest) (.bool false) rest
  | string {text rest : List Char} {content : Option String} (read : readString text = some (content, rest)) :
      Begins fuel ('"' :: text) (.string content) rest
  | noItems {text rest : List Char} (closes : skipSpace text = ']' :: rest) : Begins fuel ('[' :: text) (.array []) rest
  | items {text rest : List Char} {items : List Document} (read : readItems fuel text = some (items, rest)) :
      Begins fuel ('[' :: text) (.array items) rest
  | noMembers {text rest : List Char} (closes : skipSpace text = '}' :: rest) :
      Begins fuel ('{' :: text) (.object []) rest
  | members {text rest : List Char} {members : List (Option String × Document)}
      (read : readMembers fuel text = some (members, rest)) : Begins fuel ('{' :: text) (.object members) rest
  | number {text rest : List Char} {n : Numeral} (read : readNumeral text = some (n, rest)) :
      Begins fuel text (.number n) rest

variable {fuel : Nat} {text rest : List Char} {document : Document} {items : List Document}
  {members : List (Option String × Document)}

theorem begins_of_readValue (read : readValue (fuel + 1) text = some (document, rest)) :
    Begins fuel (skipSpace text) document rest := by
  rw [readValue] at read
  generalize skipSpace text = token at read
  split at read
  · obtain ⟨rfl, rfl⟩ := Prod.mk.inj (Option.some.inj read)
    exact .null _
  · obtain ⟨rfl, rfl⟩ := Prod.mk.inj (Option.some.inj read)
    exact .yes _
  · obtain ⟨rfl, rfl⟩ := Prod.mk.inj (Option.some.inj read)
    exact .no _
  · obtain ⟨⟨content, left⟩, found, same⟩ := Option.map_eq_some_iff.1 read
    obtain ⟨rfl, rfl⟩ := Prod.mk.inj same
    exact .string found
  · split at read
    · rename_i closes
      obtain ⟨rfl, rfl⟩ := Prod.mk.inj (Option.some.inj read)
      exact .noItems closes
    · obtain ⟨⟨items, left⟩, found, same⟩ := Option.map_eq_some_iff.1 read
      obtain ⟨rfl, rfl⟩ := Prod.mk.inj same
      rw [readItems_skipSpace] at found
      exact .items found
  · split at read
    · rename_i closes
      obtain ⟨rfl, rfl⟩ := Prod.mk.inj (Option.some.inj read)
      exact .noMembers closes
    · obtain ⟨⟨members, left⟩, found, same⟩ := Option.map_eq_some_iff.1 read
      obtain ⟨rfl, rfl⟩ := Prod.mk.inj same
      rw [readMembers_skipSpace] at found
      exact .members found
  · obtain ⟨⟨n, left⟩, found, same⟩ := Option.map_eq_some_iff.1 read
    obtain ⟨rfl, rfl⟩ := Prod.mk.inj same
    exact .number found

theorem readItems_cases (read : readItems (fuel + 1) text = some (items, rest)) :
    ∃ item after, readValue fuel text = some (item, after) ∧
      ((∃ others more, skipSpace after = ',' :: more ∧ readItems fuel more = some (others, rest) ∧
        items = item :: others) ∨
      (skipSpace after = ']' :: rest ∧ items = [item])) := by
  rw [readItems] at read
  split at read
  · cases read
  · rename_i item after first
    refine ⟨item, after, first, ?_⟩
    split at read
    · rename_i more comma
      obtain ⟨⟨others, left⟩, found, same⟩ := Option.map_eq_some_iff.1 read
      obtain ⟨rfl, rfl⟩ := Prod.mk.inj same
      exact .inl ⟨others, more, comma, found, rfl⟩
    · rename_i closes
      obtain ⟨rfl, rfl⟩ := Prod.mk.inj (Option.some.inj read)
      exact .inr ⟨closes, rfl⟩
    · cases read

theorem readMembers_cases (read : readMembers (fuel + 1) text = some (members, rest)) :
    ∃ opened name named given value after, skipSpace text = '"' :: opened ∧
      readString opened = some (name, named) ∧ skipSpace named = ':' :: given ∧
      readValue fuel given = some (value, after) ∧
      ((∃ others more, skipSpace after = ',' :: more ∧ readMembers fuel more = some (others, rest) ∧
        members = (name, value) :: others) ∨
      (skipSpace after = '}' :: rest ∧ members = [(name, value)])) := by
  rw [readMembers] at read
  split at read
  case h_2 => cases read
  rename_i opened quote
  split at read
  · cases read
  rename_i name named string
  split at read
  case h_2 => cases read
  rename_i given colon
  split at read
  · cases read
  rename_i value after first
  refine ⟨opened, name, named, given, value, after, quote, string, colon, first, ?_⟩
  split at read
  · rename_i more comma
    obtain ⟨⟨others, left⟩, found, same⟩ := Option.map_eq_some_iff.1 read
    obtain ⟨rfl, rfl⟩ := Prod.mk.inj same
    exact .inl ⟨others, more, comma, found, rfl⟩
  · rename_i closes
    obtain ⟨rfl, rfl⟩ := Prod.mk.inj (Option.some.inj read)
    exact .inr ⟨closes, rfl⟩
  · cases read

/-- What has been read spells what it is read as, by the same induction on the fuel for values, items
and members. -/
theorem spells_of_read (fuel : Nat) :
    (∀ {text rest document}, readValue fuel text = some (document, rest) →
      ∃ space front, Blank space ∧ Spells document front ∧ text = space ++ (front ++ rest)) ∧
    (∀ {text rest items}, readItems fuel text = some (items, rest) →
      ∃ front space, SpellsItems items front ∧ Blank space ∧ text = front ++ (space ++ ']' :: rest)) ∧
    (∀ {text rest members}, readMembers fuel text = some (members, rest) →
      ∃ front space, SpellsMembers members front ∧ Blank space ∧ text = front ++ (space ++ '}' :: rest)) := by
  induction fuel with
  | zero => exact ⟨nofun, nofun, nofun⟩
  | succ fuel ih =>
    obtain ⟨value, items, members⟩ := ih
    refine ⟨fun {text rest document} read => ?_, fun read => ?_, fun {text rest _} read => ?_⟩
    · obtain ⟨space, blank, split⟩ := exists_blank (rfl : skipSpace text = _)
      suffices ∃ front, Spells document front ∧ skipSpace text = front ++ rest by
        obtain ⟨front, spells, token⟩ := this
        exact ⟨space, front, blank, spells, token ▸ split⟩
      have begins := begins_of_readValue read
      generalize skipSpace text = token at begins
      cases begins with
      | null => exact ⟨_, .null, rfl⟩
      | yes => exact ⟨_, .bool true, rfl⟩
      | no => exact ⟨_, .bool false, rfl⟩
      | string read =>
        obtain ⟨front, literal, rfl⟩ := spellsString_of_read read
        exact ⟨_, .string literal, rfl⟩
      | noItems closes =>
        obtain ⟨inside, blank, rfl⟩ := exists_blank closes
        exact ⟨_, .noItems blank, by simp⟩
      | items read =>
        obtain ⟨front, after, inner, blank, rfl⟩ := items read
        exact ⟨_, .items inner blank, by simp⟩
      | noMembers closes =>
        obtain ⟨inside, blank, rfl⟩ := exists_blank closes
        exact ⟨_, .noMembers blank, by simp⟩
      | members read =>
        obtain ⟨front, after, inner, blank, rfl⟩ := members read
        exact ⟨_, .members inner blank, by simp⟩
      | number read =>
        obtain ⟨front, numeral, rfl⟩ := spellsNumeral_of_read read
        exact ⟨_, .number numeral, rfl⟩
    · obtain ⟨item, after, first, next⟩ := readItems_cases read
      obtain ⟨space, front, blank, spells, rfl⟩ := value first
      rcases next with ⟨others, more, comma, later, rfl⟩ | ⟨closes, rfl⟩
      · obtain ⟨behind, apart, rfl⟩ := exists_blank comma
        obtain ⟨back, last, rest, ends, rfl⟩ := items later
        exact ⟨_, last, .more blank spells apart rest, ends, by simp⟩
      · obtain ⟨last, ends, rfl⟩ := exists_blank closes
        exact ⟨_, last, .last blank spells, ends, by simp⟩
    · obtain ⟨opened, name, named, given, document, after, quote, string, colon, first, next⟩ :=
        readMembers_cases read
      obtain ⟨before, ahead, rfl⟩ := exists_blank quote
      obtain ⟨title, literal, rfl⟩ := spellsString_of_read string
      obtain ⟨between, apart, rfl⟩ := exists_blank colon
      obtain ⟨space, front, blank, spells, rfl⟩ := value first
      rcases next with ⟨others, more, comma, later, rfl⟩ | ⟨closes, rfl⟩
      · obtain ⟨behind, gap, rfl⟩ := exists_blank comma
        obtain ⟨back, last, rest, ends, rfl⟩ := members later
        exact ⟨_, last, .more ahead literal apart blank spells gap rest, ends, by simp⟩
      · obtain ⟨last, ends, rfl⟩ := exists_blank closes
        exact ⟨_, last, .last ahead literal apart blank spells, ends, by simp⟩

/-- The texts of a document are exactly those that are read as it. -/
theorem ofText?_eq_some_iff : Document.ofText? text = some document ↔ Holds document text := by
  constructor
  · intro read
    obtain ⟨⟨found, rest⟩, value, read⟩ := Option.bind_eq_some_iff.1 read
    dsimp only at read
    split at read
    case isFalse => cases read
    rename_i ended
    obtain rfl := Option.some.inj read
    obtain ⟨before, inner, ahead, spells, rfl⟩ := (spells_of_read _).1 value
    obtain ⟨after, behind, rfl⟩ := exists_blank (List.isEmpty_iff.1 ended)
    exact ⟨before, inner, after, ahead, spells, behind, by simp⟩
  · exact ofText?_of_holds

theorem Holds.unique {other : Document} (holds : Holds document text) (again : Holds other text) :
    document = other :=
  Option.some.inj ((ofText?_of_holds holds).symm.trans (ofText?_of_holds again))

end ClusterLifecycle.Json
