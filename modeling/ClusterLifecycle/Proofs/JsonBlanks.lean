import ClusterLifecycle.Proofs.JsonTexts

/-!
Blanks outside of strings make no difference to a JSON text: without them it holds the same document, so
two texts that are the same once these blanks are left out hold the same document.
-/

namespace ClusterLifecycle.Json

open Text

/-! ### Leaving blanks out -/

/-- A text without the blanks outside of its strings, of which one may be open. -/
def squeeze : Bool → List Char → List Char
  | _, [] => []
  | false, '"' :: rest => '"' :: squeeze true rest
  | false, c :: rest => if isSpace c then squeeze false rest else c :: squeeze false rest
  | true, '"' :: rest => '"' :: squeeze false rest
  | true, '\\' :: c :: rest => '\\' :: c :: squeeze true rest
  | true, c :: rest => c :: squeeze true rest

theorem squeeze_space {c : Char} (space : isSpace c = true) (rest : List Char) :
    squeeze false (c :: rest) = squeeze false rest := by
  rw [squeeze, if_pos space]
  rintro rfl
  cases space

theorem squeeze_token {c : Char} (token : isSpace c = false) (noQuote : c ≠ '"') (rest : List Char) :
    squeeze false (c :: rest) = c :: squeeze false rest := by
  rw [squeeze, if_neg (by simp [token])]
  exact noQuote

theorem squeeze_blank {space : List Char} (blank : Blank space) (rest : List Char) :
    squeeze false (space ++ rest) = squeeze false rest := by
  induction space with
  | nil => rfl
  | cons c space ih =>
    have later : Blank space := fun d member => blank d (List.mem_cons_of_mem _ member)
    rw [List.cons_append, squeeze_space (blank c (List.mem_cons_self ..)), ih later]

def Plain (front : List Char) : Prop := ∀ c ∈ front, isSpace c = false ∧ c ≠ '"'

theorem squeeze_append {front : List Char} (plain : Plain front) (rest : List Char) :
    squeeze false (front ++ rest) = front ++ squeeze false rest := by
  induction front with
  | nil => rfl
  | cons c front ih =>
    obtain ⟨token, noQuote⟩ := plain c (List.mem_cons_self ..)
    rw [List.cons_append, squeeze_token token noQuote, ih fun d member => plain d (List.mem_cons_of_mem _ member)]
    rfl

theorem plain_nil : Plain [] := by
  simp [Plain]

theorem plain_singleton {c : Char} (token : isSpace c = false) (noQuote : c ≠ '"') : Plain [c] := by
  intro d member
  obtain rfl := List.mem_singleton.1 member
  exact ⟨token, noQuote⟩

theorem plain_append {front back : List Char} (first : Plain front) (second : Plain back) : Plain (front ++ back) := by
  intro c member
  rcases List.mem_append.1 member with early | late
  · exact first c early
  · exact second c late

theorem squeeze_inside {c : Char} (noQuote : c ≠ '"') (noBackslash : c ≠ '\\') (rest : List Char) :
    squeeze true (c :: rest) = c :: squeeze true rest := by
  rw [squeeze]
  · exact noQuote
  · intro d rest same
    exact absurd same noBackslash

/-! ### Strings and numerals -/

theorem exists_hexDigit {digits : List Char} {n : Nat} (read : natural? 16 digits = some n) {c : Char}
    (member : c ∈ digits) : ∃ d, hexDigit? c = some d := by
  let step := fun (sum : Option Nat) c => do
    let total ← sum
    let d ← hexDigit? c
    if d < 16 then some (total * 16 + d) else none
  have stuck : ∀ more : List Char, more.foldl step none = none := by
    intro more
    induction more with
    | nil => rfl
    | cons d more ih => exact ih
  have each : ∀ (more : List Char) (start : Option Nat), more.foldl step start = some n → c ∈ more →
      ∃ d, hexDigit? c = some d := by
    intro more
    induction more with
    | nil => intro start found member; cases member
    | cons d more ih =>
      intro start found member
      rcases List.mem_cons.1 member with rfl | later
      · cases digit : hexDigit? c with
        | some value => exact ⟨value, rfl⟩
        | none =>
          have spoiled : step start c = none := by cases start <;> simp [step, digit]
          rw [List.foldl_cons, spoiled, stuck] at found
          cases found
      · exact ih _ found later
  rw [natural?] at read
  split at read
  · cases read
  · exact each digits (some 0) read member

theorem plain_digit {c : Char} {d : Nat} (digit : hexDigit? c = some d) : c ≠ '"' ∧ c ≠ '\\' := by
  constructor
  · rintro rfl
    cases digit
  · rintro rfl
    cases digit

theorem Writes.squeeze {pieces : List Piece} {text : List Char} (writes : Writes pieces text) (rest : List Char) :
    squeeze true (text ++ rest) = text ++ squeeze true rest := by
  induction writes with
  | nil => rfl
  | plain quote backslash _ _ ih =>
    rw [List.cons_append, squeeze_inside quote backslash, ih]
    rfl
  | short _ _ ih =>
    rw [List.cons_append, List.cons_append, Json.squeeze, ih]
    rfl
  | @unit a b c d n pieces text value _ ih =>
    have copied : ∀ e ∈ [a, b, c, d], ∀ rest, Json.squeeze true (e :: rest) = e :: Json.squeeze true rest := by
      intro e member rest
      obtain ⟨n, digit⟩ := exists_hexDigit value member
      obtain ⟨noQuote, noBackslash⟩ := plain_digit digit
      exact squeeze_inside noQuote noBackslash rest
    simp only [List.cons_append]
    rw [Json.squeeze, copied a (by simp), copied b (by simp), copied c (by simp), copied d (by simp), ih]

theorem SpellsString.squeeze {content : Option String} {text : List Char} (literal : SpellsString content text)
    (rest : List Char) : squeeze false (text ++ rest) = text ++ squeeze false rest := by
  obtain ⟨writes⟩ := literal
  rw [List.cons_append, List.append_assoc, Json.squeeze, writes.squeeze, List.singleton_append, Json.squeeze]
  simp

theorem plain_decimal {front : List Char} (decimal : ∀ c ∈ front, isDecimal c = true) : Plain front := by
  intro c member
  obtain ⟨token, other⟩ := numeral_front (.inr (decimal c member))
  refine ⟨token, ?_⟩
  rintro rfl
  simp at other

theorem plain_fractionText {fraction : List Char} (decimal : ∀ c ∈ fraction, isDecimal c = true) :
    Plain (fractionText fraction) := by
  unfold fractionText
  split
  · exact plain_nil
  · exact plain_append (plain_singleton rfl (by decide)) (plain_decimal decimal)

theorem plain_mark {c : Char} (mark : c = 'e' ∨ c = 'E') : Plain [c] := by
  rcases mark with rfl | rfl
  · exact plain_singleton rfl (by decide)
  · exact plain_singleton rfl (by decide)

theorem WritesExponent.plain {exponent : Option (Bool × List Char)} {text : List Char}
    (writes : WritesExponent exponent text)
    (decimal : ∀ negative digits, exponent = some (negative, digits) → ∀ c ∈ digits, isDecimal c = true) :
    Plain text := by
  cases writes with
  | none => exact plain_nil
  | unsigned marked digits => exact plain_append (plain_mark marked) (plain_decimal (decimal _ _ rfl))
  | plus marked digits =>
    have sign : Plain ['+'] := plain_singleton rfl (by decide)
    exact plain_append (plain_mark marked) (plain_append sign (plain_decimal (decimal _ _ rfl)))
  | minus marked digits =>
    have sign : Plain ['-'] := plain_singleton rfl (by decide)
    exact plain_append (plain_mark marked) (plain_append sign (plain_decimal (decimal _ _ rfl)))

theorem SpellsNumeral.plain {n : Numeral} {text : List Char} (numeral : SpellsNumeral n text) : Plain text := by
  obtain ⟨grammatical, exponent⟩ := numeral
  have sign : Plain (if n.negative then ['-'] else []) := by
    cases n.negative with
    | true => exact plain_singleton rfl (by decide)
    | false => exact plain_nil
  have mark := exponent.plain fun negative digits same => (grammatical.exponent negative digits same).2
  have fraction := plain_fractionText grammatical.fractionDigits
  exact plain_append sign (plain_append (plain_decimal grammatical.wholeDigits) (plain_append fraction mark))

/-! ### Values -/

-- by recursion on the spelling; each part has a shorter text of its own, whatever follows it
mutual

/-- Without its blanks, a text spells the same document and is over at the same place. -/
theorem Spells.squeeze {document : Document} {text : List Char} : Spells document text →
    ∃ short, Spells document short ∧ ∀ rest, squeeze false (text ++ rest) = short ++ squeeze false rest
  | .null => ⟨_, .null, squeeze_append (by simp [Plain, isSpace])⟩
  | .bool b => by
    refine ⟨_, .bool b, squeeze_append ?_⟩
    cases b <;> simp [Plain, boolText, isSpace]
  | .number numeral => ⟨_, .number numeral, squeeze_append numeral.plain⟩
  | .string literal => ⟨_, .string literal, literal.squeeze⟩
  | .noItems blank => by
    refine ⟨_, .noItems blank_nil, fun rest => ?_⟩
    simp only [List.cons_append, List.append_assoc, List.nil_append, squeeze_token (c := '[') rfl nofun,
      squeeze_blank blank, squeeze_token (c := ']') rfl nofun]
  | .items inner blank => by
    obtain ⟨short, spells, same⟩ := inner.squeeze
    refine ⟨_, .items spells blank_nil, fun rest => ?_⟩
    simp only [List.cons_append, List.append_assoc, List.nil_append, squeeze_token (c := '[') rfl nofun, same,
      squeeze_blank blank, squeeze_token (c := ']') rfl nofun]
  | .noMembers blank => by
    refine ⟨_, .noMembers blank_nil, fun rest => ?_⟩
    simp only [List.cons_append, List.append_assoc, List.nil_append, squeeze_token (c := '{') rfl nofun,
      squeeze_blank blank, squeeze_token (c := '}') rfl nofun]
  | .members inner blank => by
    obtain ⟨short, spells, same⟩ := inner.squeeze
    refine ⟨_, .members spells blank_nil, fun rest => ?_⟩
    simp only [List.cons_append, List.append_assoc, List.nil_append, squeeze_token (c := '{') rfl nofun, same,
      squeeze_blank blank, squeeze_token (c := '}') rfl nofun]

theorem SpellsItems.squeeze {items : List Document} {text : List Char} : SpellsItems items text →
    ∃ short, SpellsItems items short ∧ ∀ rest, squeeze false (text ++ rest) = short ++ squeeze false rest
  | .last blank first => by
    obtain ⟨short, spells, same⟩ := first.squeeze
    refine ⟨_, .last blank_nil spells, fun rest => ?_⟩
    simp only [List.append_assoc, List.nil_append, squeeze_blank blank, same]
  | .more blank first behind others => by
    obtain ⟨short, spells, same⟩ := first.squeeze
    obtain ⟨shorts, later, alike⟩ := others.squeeze
    refine ⟨_, .more blank_nil spells blank_nil later, fun rest => ?_⟩
    simp only [List.append_assoc, List.cons_append, List.nil_append, squeeze_blank blank, same, squeeze_blank behind,
      squeeze_token (c := ',') rfl nofun, alike]

theorem SpellsMembers.squeeze {members : List (Option String × Document)} {text : List Char} :
    SpellsMembers members text →
    ∃ short, SpellsMembers members short ∧ ∀ rest, squeeze false (text ++ rest) = short ++ squeeze false rest
  | .last ahead literal apart blank first => by
    obtain ⟨short, spells, same⟩ := first.squeeze
    refine ⟨_, .last blank_nil literal blank_nil blank_nil spells, fun rest => ?_⟩
    simp only [List.append_assoc, List.cons_append, List.nil_append, squeeze_blank ahead, literal.squeeze,
      squeeze_blank apart, squeeze_token (c := ':') rfl nofun, squeeze_blank blank, same]
  | .more ahead literal apart blank first behind others => by
    obtain ⟨short, spells, same⟩ := first.squeeze
    obtain ⟨shorts, later, alike⟩ := others.squeeze
    refine ⟨_, .more blank_nil literal blank_nil blank_nil spells blank_nil later, fun rest => ?_⟩
    simp only [List.append_assoc, List.cons_append, List.nil_append, squeeze_blank ahead, literal.squeeze,
      squeeze_blank apart, squeeze_token (c := ':') rfl nofun, squeeze_blank blank, same, squeeze_blank behind,
      squeeze_token (c := ',') rfl nofun, alike]

end

theorem Holds.squeeze {document : Document} {text : List Char} (holds : Holds document text) :
    Holds document (squeeze false text) := by
  obtain ⟨before, inner, after, ahead, spells, behind, rfl⟩ := holds
  obtain ⟨short, spells, same⟩ := spells.squeeze
  have ended : Json.squeeze false after = [] := by
    rw [← List.append_nil after, squeeze_blank behind, Json.squeeze]
  rw [squeeze_blank ahead, same, ended, List.append_nil]
  exact holds_of_spells spells

theorem eq_of_squeeze {text text' : List Char} {document document' : Document}
    (read : Document.ofText? text = some document) (read' : Document.ofText? text' = some document')
    (same : squeeze false text = squeeze false text') : document = document' := by
  have holds := (ofText?_eq_some_iff.1 read).squeeze
  rw [same] at holds
  exact holds.unique (ofText?_eq_some_iff.1 read').squeeze

end ClusterLifecycle.Json
