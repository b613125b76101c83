import ClusterLifecycle.Json.Printer
import ClusterLifecycle.Json.Reader
import Mathlib.Data.List.TakeDrop

/-!
Strings and numerals of JSON texts are read in whatever way they are written, and printing is one of these
ways. A string is over at its closing quote; a numeral is over where a character follows that could not go
on with it.
-/

namespace ClusterLifecycle.Json

open Text

theorem characters?_unit {n : Nat} (plain : n < 0xD800) (more : List Piece) :
    characters? (.unit n :: more) = (characters? more).map (Char.ofNat n :: ·) := by
  have high : isHigh n = false := by
    simp only [isHigh, Bool.and_eq_false_imp, decide_eq_true_eq]
    omega
  have low : isLow n = false := by
    simp only [isLow, Bool.and_eq_false_imp, decide_eq_true_eq]
    omega
  cases more with
  | nil => simp [characters?, high, low]
  | cons piece rest =>
    cases piece with
    | char c =>
      simp only [characters?, high, low, Bool.false_eq_true, if_false, Bool.or_self]
      cases characters? rest <;> rfl
    | unit m =>
      simp only [characters?, high, low, Bool.false_eq_true, if_false]
      cases characters? (.unit m :: rest) <;> rfl

theorem natural?_controlDigits :
    ∀ n < 0x20, natural? 16 ['0', '0', hexDigit (n / 16), hexDigit (n % 16)] = some n := by
  decide

theorem characters?_char (c : Char) (more : List Piece) :
    characters? (.char c :: more) = (characters? more).map (c :: ·) := by
  rw [characters?, Option.map_eq_bind]
  rfl

theorem readPieces_char {c : Char} (quote : c ≠ '"') (backslash : c ≠ '\\') (visible : ¬ c.toNat < 0x20)
    (rest : List Char) :
    readPieces (c :: rest) = (readPieces rest).map fun (pieces, left) => (.char c :: pieces, left) := by
  rw [readPieces, if_neg visible, Option.map_eq_bind]
  · rfl
  · exact quote
  · intro a b d e rest same
    exact absurd same backslash
  · intro e rest same
    exact absurd same backslash

theorem readPieces_short {e c : Char} (short : escaped? e = some c) (rest : List Char) :
    readPieces ('\\' :: e :: rest) = (readPieces rest).map fun (pieces, left) => (.char c :: pieces, left) := by
  have noUnit : e ≠ 'u' := by
    intro same
    subst same
    cases short
  rw [readPieces, short, Option.map_eq_bind]
  · rfl
  · intro a b d f rest same
    exact absurd same noUnit

theorem readPieces_unit {a b c d : Char} {n : Nat} (value : natural? 16 [a, b, c, d] = some n) (rest : List Char) :
    readPieces ('\\' :: 'u' :: a :: b :: c :: d :: rest) =
      (readPieces rest).map fun (pieces, left) => (.unit n :: pieces, left) := by
  rw [readPieces, value, Option.map_eq_bind]
  rfl

/-- What is written for the pieces of a string. -/
inductive Writes : List Piece → List Char → Prop where
  | nil : Writes [] []
  | plain {c : Char} {pieces : List Piece} {text : List Char} (quote : c ≠ '"') (backslash : c ≠ '\\')
      (visible : ¬ c.toNat < 0x20) (more : Writes pieces text) : Writes (.char c :: pieces) (c :: text)
  | short {e c : Char} {pieces : List Piece} {text : List Char} (short : escaped? e = some c)
      (more : Writes pieces text) : Writes (.char c :: pieces) ('\\' :: e :: text)
  | unit {a b c d : Char} {n : Nat} {pieces : List Piece} {text : List Char}
      (value : natural? 16 [a, b, c, d] = some n) (more : Writes pieces text) :
      Writes (.unit n :: pieces) ('\\' :: 'u' :: a :: b :: c :: d :: text)

theorem Writes.append {pieces others : List Piece} {text further : List Char} (writes : Writes pieces text)
    (more : Writes others further) : Writes (pieces ++ others) (text ++ further) := by
  induction writes with
  | nil => exact more
  | plain quote backslash visible _ ih => exact .plain quote backslash visible ih
  | short short _ ih => exact .short short ih
  | unit value _ ih => exact .unit value ih

theorem Writes.read {pieces : List Piece} {text : List Char} (writes : Writes pieces text) (rest : List Char) :
    readPieces (text ++ rest) = (readPieces rest).map fun (others, left) => (pieces ++ others, left) := by
  induction writes with
  | nil => simp
  | plain quote backslash visible _ ih =>
    rw [List.cons_append, readPieces_char quote backslash visible, ih, Option.map_map]
    rfl
  | short short _ ih =>
    rw [List.cons_append, List.cons_append, readPieces_short short, ih, Option.map_map]
    rfl
  | unit value _ ih =>
    rw [List.cons_append, List.cons_append, List.cons_append, List.cons_append, List.cons_append, List.cons_append,
      readPieces_unit value, ih, Option.map_map]
    rfl

def Stands (spelled : List Char) (c : Char) : Prop :=
  ∃ piece, Writes [piece] spelled ∧ ∀ more, characters? (piece :: more) = (characters? more).map (c :: ·)

theorem stands_escape (c : Char) : Stands (escape c) c := by
  have short : ∀ e, escaped? e = some c → escape c = ['\\', e] → Stands (escape c) c := by
    intro e escaped same
    rw [same]
    exact ⟨.char c, .short escaped .nil, characters?_char c⟩
  by_cases quote : c = '"'
  · exact short '"' (by rw [quote]; rfl) (by rw [quote]; rfl)
  by_cases backslash : c = '\\'
  · exact short '\\' (by rw [backslash]; rfl) (by rw [backslash]; rfl)
  by_cases backspace : c = '\x08'
  · exact short 'b' (by rw [backspace]; rfl) (by rw [backspace]; rfl)
  by_cases feed : c = '\x0c'
  · exact short 'f' (by rw [feed]; rfl) (by rw [feed]; rfl)
  by_cases newline : c = '\n'
  · exact short 'n' (by rw [newline]; rfl) (by rw [newline]; rfl)
  by_cases carriage : c = '\r'
  · exact short 'r' (by rw [carriage]; rfl) (by rw [carriage]; rfl)
  by_cases tab : c = '\t'
  · exact short 't' (by rw [tab]; rfl) (by rw [tab]; rfl)
  rw [escape, if_neg quote, if_neg backslash, if_neg backspace, if_neg feed, if_neg newline,
    if_neg carriage, if_neg tab]
  by_cases control : c.toNat < 0x20
  · rw [if_pos control]
    refine ⟨.unit c.toNat, .unit (natural?_controlDigits _ control) .nil, fun more => ?_⟩
    rw [characters?_unit (by omega), Char.ofNat_toNat]
  · rw [if_neg control]
    exact ⟨.char c, .plain quote backslash control .nil, characters?_char c⟩

theorem exists_writes {spelling : Char → List Char} (stands : ∀ c, Stands (spelling c) c) (text : List Char) :
    ∃ pieces, Writes pieces (text.flatMap spelling) ∧ characters? pieces = some text := by
  induction text with
  | nil => exact ⟨[], .nil, rfl⟩
  | cons c text ih =>
    obtain ⟨pieces, more, characters⟩ := ih
    obtain ⟨piece, first, character⟩ := stands c
    refine ⟨piece :: pieces, first.append more, ?_⟩
    rw [character, characters]
    rfl

/-- A string between quotes with its content. -/
inductive SpellsString : Option String → List Char → Prop where
  | pieces {pieces : List Piece} {text : List Char} (writes : Writes pieces text) :
      SpellsString ((characters? pieces).map String.ofList) ('"' :: (text ++ ['"']))

theorem SpellsString.read {content : Option String} {text : List Char} (spells : SpellsString content text)
    (rest : List Char) : ∃ more, text ++ rest = '"' :: more ∧ readString more = some (content, rest) := by
  obtain ⟨writes⟩ := spells
  refine ⟨_, by rw [List.cons_append, List.append_assoc], ?_⟩
  rw [readString, writes.read, List.cons_append, readPieces]
  simp

theorem spellsString_spelled {spelling : Char → List Char} (stands : ∀ c, Stands (spelling c) c) (s : String) :
    SpellsString (some s) ('"' :: (s.toList.flatMap spelling ++ ['"'])) := by
  obtain ⟨pieces, writes, characters⟩ := exists_writes stands s.toList
  have spells := SpellsString.pieces writes
  rw [characters, Option.map_some, String.ofList_toList] at spells
  exact spells

theorem spellsString_quoted (s : String) : SpellsString (some s) (quoted s) :=
  spellsString_spelled stands_escape s

def Stops (rest : List Char) : Prop :=
  ∀ c ∈ rest.head?, isDecimal c = false ∧ c ≠ '.' ∧ c ≠ 'e' ∧ c ≠ 'E'

/-- A numeral as the grammar has it: no leading zero, and digits wherever there is a point or an
exponent. -/
structure Numeral.Grammatical (n : Numeral) : Prop where
  whole : n.whole = ['0'] ∨ n.whole.head? ≠ some '0' ∧ n.whole ≠ []
  wholeDigits : ∀ c ∈ n.whole, isDecimal c = true
  fractionDigits : ∀ c ∈ n.fraction, isDecimal c = true
  exponent : ∀ negative digits, n.exponent = some (negative, digits) →
    digits ≠ [] ∧ ∀ c ∈ digits, isDecimal c = true

theorem digits_append {text rest : List Char} (decimal : ∀ c ∈ text, isDecimal c = true)
    (ends : ∀ c ∈ rest.head?, isDecimal c = false) : digits (text ++ rest) = (text, rest) := by
  have further : rest.takeWhile isDecimal = [] ∧ rest.dropWhile isDecimal = rest := by
    cases rest with
    | nil => exact ⟨rfl, rfl⟩
    | cons c rest =>
      have stop : isDecimal c = false := ends c rfl
      simp [stop]
  rw [digits, List.span_eq_takeWhile_dropWhile, List.takeWhile_append_of_pos decimal,
    List.dropWhile_append_of_pos decimal, further.1, further.2, List.append_nil]

theorem readWhole_append {whole rest : List Char}
    (front : whole = ['0'] ∨ whole.head? ≠ some '0' ∧ whole ≠ [])
    (decimal : ∀ c ∈ whole, isDecimal c = true) (ends : ∀ c ∈ rest.head?, isDecimal c = false) :
    readWhole (whole ++ rest) = some (whole, rest) := by
  rcases front with rfl | ⟨noZero, some⟩
  · rfl
  · cases whole with
    | nil => exact absurd rfl some
    | cons c whole =>
      have read := digits_append decimal ends
      rw [List.cons_append] at read ⊢
      rw [readWhole, read]
      · simp
      · intro left same
        obtain ⟨rfl, -⟩ := List.cons.inj same
        exact noZero rfl

def fractionText (fraction : List Char) : List Char :=
  if fraction.isEmpty then [] else '.' :: fraction

/-- What is written for an exponent: a mark, a sign or none, and digits. -/
inductive WritesExponent : Option (Bool × List Char) → List Char → Prop where
  | none : WritesExponent none []
  | unsigned {mark : Char} (marked : mark = 'e' ∨ mark = 'E') (digits : List Char) :
      WritesExponent (some (false, digits)) (mark :: digits)
  | plus {mark : Char} (marked : mark = 'e' ∨ mark = 'E') (digits : List Char) :
      WritesExponent (some (false, digits)) (mark :: '+' :: digits)
  | minus {mark : Char} (marked : mark = 'e' ∨ mark = 'E') (digits : List Char) :
      WritesExponent (some (true, digits)) (mark :: '-' :: digits)

inductive SpellsNumeral : Numeral → List Char → Prop where
  | written {n : Numeral} {text : List Char} (grammatical : n.Grammatical) (exponent : WritesExponent n.exponent text) :
      SpellsNumeral n ((if n.negative then ['-'] else []) ++ (n.whole ++ (fractionText n.fraction ++ text)))

theorem readFraction_append {fraction rest : List Char} (decimal : ∀ c ∈ fraction, isDecimal c = true)
    (ends : ∀ c ∈ rest.head?, isDecimal c = false ∧ c ≠ '.') :
    readFraction (fractionText fraction ++ rest) = some (fraction, rest) := by
  cases fraction with
  | nil =>
    cases rest with
    | nil => rfl
    | cons c rest =>
      have other : c ≠ '.' := (ends c (by simp)).2
      simp only [fractionText, List.isEmpty_nil, if_true, List.nil_append]
      rw [readFraction]
      intro text same
      exact other (List.cons.inj same).1
  | cons c fraction =>
    have read := digits_append decimal fun d member => (ends d member).1
    simp only [fractionText, List.isEmpty_cons, Bool.false_eq_true, if_false, List.cons_append] at read ⊢
    rw [readFraction, read]
    simp

section Marked

variable {c d : Char} (mark : c = 'e' ∨ c = 'E')

include mark

theorem readExponent_plus (rest : List Char) : readExponent (c :: '+' :: rest) = readExponentDigits false rest := by
  unfold readExponent
  exact if_pos mark

theorem readExponent_minus (rest : List Char) : readExponent (c :: '-' :: rest) = readExponentDigits true rest := by
  unfold readExponent
  exact if_pos mark

theorem readExponent_digit (digit : isDecimal d = true) (rest : List Char) :
    readExponent (c :: d :: rest) = readExponentDigits false (d :: rest) := by
  unfold readExponent
  dsimp only
  rw [if_pos mark]
  split
  · rename_i same
    obtain rfl := (List.cons.inj same).1
    cases digit
  · rename_i same
    obtain rfl := (List.cons.inj same).1
    cases digit
  · rfl

end Marked

theorem readExponent_append {exponent : Option (Bool × List Char)} {text rest : List Char}
    (writes : WritesExponent exponent text)
    (decimal : ∀ negative digits, exponent = some (negative, digits) →
      digits ≠ [] ∧ ∀ c ∈ digits, isDecimal c = true)
    (ends : Stops rest) : readExponent (text ++ rest) = some (exponent, rest) := by
  have taken : ∀ negative digits, exponent = some (negative, digits) →
      readExponentDigits negative (digits ++ rest) = some (some (negative, digits), rest) := by
    intro negative digits same
    obtain ⟨some, decimal⟩ := decimal negative digits same
    rw [readExponentDigits, digits_append decimal fun c member => (ends c member).1]
    simp [some]
  cases writes with
  | none =>
    cases rest with
    | nil => rfl
    | cons c rest =>
      have other := (ends c (by simp)).2.2
      simp [readExponent, other]
  | unsigned marked digits =>
    obtain ⟨some, decimal⟩ := decimal false digits rfl
    cases digits with
    | nil => exact absurd rfl some
    | cons d digits =>
      rw [List.cons_append, List.cons_append, readExponent_digit marked (decimal d (List.mem_cons_self ..))]
      exact taken false _ rfl
  | plus marked digits =>
    rw [List.cons_append, List.cons_append, readExponent_plus marked]
    exact taken false digits rfl
  | minus marked digits =>
    rw [List.cons_append, List.cons_append, readExponent_minus marked]
    exact taken true digits rfl

theorem WritesExponent.stops {exponent : Option (Bool × List Char)} {text rest : List Char}
    (writes : WritesExponent exponent text) (ends : Stops rest) :
    ∀ c ∈ (text ++ rest).head?, isDecimal c = false ∧ c ≠ '.' := by
  have mark : ∀ {mark : Char}, mark = 'e' ∨ mark = 'E' → isDecimal mark = false ∧ mark ≠ '.' := by
    intro mark marked
    rcases marked with rfl | rfl
    · decide
    · decide
  intro c member
  cases writes with
  | none => exact ⟨(ends c member).1, (ends c member).2.1⟩
  | unsigned marked digits =>
    obtain rfl := Option.some.inj member
    exact mark marked
  | plus marked digits =>
    obtain rfl := Option.some.inj member
    exact mark marked
  | minus marked digits =>
    obtain rfl := Option.some.inj member
    exact mark marked

theorem readMagnitude_append {n : Numeral} (grammatical : n.Grammatical) {text rest : List Char}
    (exponent : WritesExponent n.exponent text) (ends : Stops rest) :
    readMagnitude n.negative (n.whole ++ (fractionText n.fraction ++ text) ++ rest) = some (n, rest) := by
  have afterWhole : ∀ c ∈ (fractionText n.fraction ++ (text ++ rest)).head?, isDecimal c = false := by
    intro c member
    cases fraction : n.fraction with
    | nil =>
      rw [fraction] at member
      exact (exponent.stops ends c member).1
    | cons d more =>
      obtain rfl : '.' = c := by simpa [fraction, fractionText] using member
      decide
  rw [List.append_assoc, List.append_assoc, readMagnitude,
    readWhole_append grammatical.whole grammatical.wholeDigits afterWhole]
  simp only [Option.bind_eq_bind, Option.bind_some,
    readFraction_append grammatical.fractionDigits (exponent.stops ends),
    readExponent_append exponent grammatical.exponent ends]

theorem Numeral.Grammatical.whole_front {n : Numeral} (grammatical : n.Grammatical) :
    ∃ c more, n.whole = c :: more ∧ isDecimal c = true := by
  cases whole : n.whole with
  | nil => simpa [whole] using grammatical.whole
  | cons c more => exact ⟨c, more, rfl, grammatical.wholeDigits c (by simp [whole])⟩

theorem SpellsNumeral.read {n : Numeral} {text rest : List Char} (spells : SpellsNumeral n text) (ends : Stops rest) :
    readNumeral (text ++ rest) = some (n, rest) := by
  obtain ⟨grammatical, exponent⟩ := spells
  have read := readMagnitude_append grammatical exponent ends
  cases negative : n.negative with
  | true =>
    rw [negative] at read
    exact read
  | false =>
    rw [negative] at read
    simp only [Bool.false_eq_true, if_false, List.nil_append]
    rw [readNumeral, read]
    intro text same
    obtain ⟨c, more, whole, decimal⟩ := grammatical.whole_front
    rw [whole] at same
    obtain ⟨rfl, -⟩ := List.cons.inj same
    exact absurd decimal (by decide)

theorem SpellsNumeral.front {n : Numeral} {text : List Char} (spells : SpellsNumeral n text) :
    ∃ c more, text = c :: more ∧ (c = '-' ∨ isDecimal c = true) := by
  obtain ⟨grammatical, exponent⟩ := spells
  cases n.negative with
  | true => exact ⟨'-', _, rfl, .inl rfl⟩
  | false =>
    obtain ⟨c, more, whole, decimal⟩ := grammatical.whole_front
    exact ⟨c, _, by rw [whole]; rfl, .inr decimal⟩

theorem spellsNumeral_print {n : Numeral} (grammatical : n.Grammatical) : SpellsNumeral n n.print := by
  have written : ∃ text, WritesExponent n.exponent text ∧
      n.print = (if n.negative then ['-'] else []) ++ (n.whole ++ (fractionText n.fraction ++ text)) := by
    unfold Numeral.print fractionText
    cases n.exponent with
    | none => exact ⟨[], .none, by simp⟩
    | some signed =>
      obtain ⟨negative, digits⟩ := signed
      cases negative with
      | true => exact ⟨_, .minus (.inl rfl) digits, by simp⟩
      | false => exact ⟨_, .plus (.inl rfl) digits, by simp⟩
  obtain ⟨text, exponent, same⟩ := written
  rw [same]
  exact .written grammatical exponent

theorem head?_decimal {n : Nat} (positive : 0 < n) : (decimal n).head? ≠ some '0' := by
  induction n using Nat.strongRecOn with
  | ind n ih =>
    unfold decimal at ih ⊢
    by_cases small : n < 10
    · have digit : ∀ d < 10, 0 < d → Nat.digitChar d ≠ '0' := by decide
      rw [Nat.toDigits_of_lt_base small]
      intro same
      exact digit n small positive (Option.some.inj same)
    · rw [Nat.toDigits_of_base_le (by decide) (by omega)]
      have front := ih (n / 10) (by omega) (by omega)
      cases before : Nat.toDigits 10 (n / 10) with
      | nil => exact absurd before Nat.toDigits_ne_nil
      | cons c more => simpa [before] using front

theorem grammatical_decimal (n : Nat) : (⟨false, decimal n, [], none⟩ : Numeral).Grammatical where
  whole := by
    by_cases positive : 0 < n
    · exact .inr ⟨head?_decimal positive, Nat.toDigits_ne_nil⟩
    · obtain rfl : n = 0 := by omega
      exact .inl rfl
  wholeDigits := fun _ member => isDecimal_decimal member
  fractionDigits := by simp
  exponent := by simp

end ClusterLifecycle.Json
