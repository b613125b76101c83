import ClusterLifecycle.Proofs.JsonToken

/-!
The texts that spell a document, whatever spaces stand between their tokens and however their strings and
numerals are written. The reader takes every one of them back to its document, and both ways of printing
end up among them.
-/

namespace ClusterLifecycle.Json

open Text

def Blank (space : List Char) : Prop := ∀ c ∈ space, isSpace c = true

mutual

/-- A text that stands for a document and begins with its first token. -/
inductive Spells : Document → List Char → Prop where
  | null : Spells .null ['n', 'u', 'l', 'l']
  | bool (b : Bool) : Spells (.bool b) (boolText b)
  | number {n : Numeral} {text : List Char} (numeral : SpellsNumeral n text) : Spells (.number n) text
  | string {content : Option String} {text : List Char} (literal : SpellsString content text) :
      Spells (.string content) text
  | noItems {space : List Char} (blank : Blank space) : Spells (.array []) ('[' :: (space ++ [']']))
  | items {items : List Document} {text space : List Char} (inner : SpellsItems items text)
      (blank : Blank space) : Spells (.array items) ('[' :: (text ++ (space ++ [']'])))
  | noMembers {space : List Char} (blank : Blank space) : Spells (.object []) ('{' :: (space ++ ['}']))
  | members {members : List (Option String × Document)} {text space : List Char}
      (inner : SpellsMembers members text) (blank : Blank space) :
      Spells (.object members) ('{' :: (text ++ (space ++ ['}'])))

/-- A text that stands for the items between two brackets. -/
inductive SpellsItems : List Document → List Char → Prop where
  | last {item : Document} {text space : List Char} (blank : Blank space) (first : Spells item text) :
      SpellsItems [item] (space ++ text)
  | more {item : Document} {items : List Document} {text others space after : List Char}
      (blank : Blank space) (first : Spells item text) (behind : Blank after) (rest : SpellsItems items others) :
      SpellsItems (item :: items) (space ++ (text ++ (after ++ ',' :: others)))

/-- A text that stands for the members between two braces. -/
inductive SpellsMembers : List (Option String × Document) → List Char → Prop where
  | last {name : Option String} {value : Document} {title text before between space : List Char}
      (ahead : Blank before) (literal : SpellsString name title) (apart : Blank between) (blank : Blank space)
      (first : Spells value text) :
      SpellsMembers [(name, value)] (before ++ (title ++ (between ++ ':' :: (space ++ text))))
  | more {name : Option String} {value : Document} {members : List (Option String × Document)}
      {title text others before between space after : List Char} (ahead : Blank before)
      (literal : SpellsString name title) (apart : Blank between) (blank : Blank space) (first : Spells value text)
      (behind : Blank after) (rest : SpellsMembers members others) :
      SpellsMembers ((name, value) :: members)
        (before ++ (title ++ (between ++ ':' :: (space ++ (text ++ (after ++ ',' :: others))))))

end

theorem skipSpace_append {space : List Char} (blank : Blank space) (text : List Char) :
    skipSpace (space ++ text) = skipSpace text :=
  List.dropWhile_append_of_pos blank

theorem skipSpace_cons {c : Char} (token : isSpace c = false) (text : List Char) :
    skipSpace (c :: text) = c :: text := by
  rw [skipSpace, List.dropWhile_cons, token]
  rfl

theorem skipSpace_append_of_token {text more : List Char} {c : Char} (token : skipSpace text = c :: more)
    (rest : List Char) : skipSpace (text ++ rest) = c :: (more ++ rest) := by
  unfold skipSpace at token ⊢
  rw [List.dropWhile_append, token]
  rfl

theorem skipSpace_skipSpace (text : List Char) : skipSpace (skipSpace text) = skipSpace text := by
  induction text with
  | nil => rfl
  | cons c text ih =>
    by_cases space : isSpace c = true
    · have same : skipSpace (c :: text) = skipSpace text := by
        rw [skipSpace, List.dropWhile_cons, if_pos space]
        rfl
      rw [same, ih]
    · have token : isSpace c = false := by simpa using space
      rw [skipSpace_cons token, skipSpace_cons token]

theorem readItems_skipSpace (fuel : Nat) (text : List Char) :
    readItems fuel (skipSpace text) = readItems fuel text := by
  cases fuel with
  | zero => rfl
  | succ fuel =>
    have value : readValue fuel (skipSpace text) = readValue fuel text := by
      cases fuel with
      | zero => rfl
      | succ fuel => rw [readValue, readValue, skipSpace_skipSpace]
    rw [readItems, readItems, value]

theorem readMembers_skipSpace (fuel : Nat) (text : List Char) :
    readMembers fuel (skipSpace text) = readMembers fuel text := by
  cases fuel with
  | zero => rfl
  | succ fuel => rw [readMembers, readMembers, skipSpace_skipSpace]

theorem numeral_front {c : Char} (front : c = '-' ∨ isDecimal c = true) :
    isSpace c = false ∧ c ∉ ['n', 't', 'f', '"', '[', ']', '{'] := by
  have other : ∀ d ∈ [' ', '\t', '\n', '\r', 'n', 't', 'f', '"', '[', ']', '{'], c ≠ d := by
    intro d member same
    subst same
    rcases front with rfl | digit
    · revert member
      decide
    · have none : [' ', '\t', '\n', '\r', 'n', 't', 'f', '"', '[', ']', '{'].any isDecimal = false := by
        decide
      have some : [' ', '\t', '\n', '\r', 'n', 't', 'f', '"', '[', ']', '{'].any isDecimal = true :=
        List.any_eq_true.2 ⟨c, member, digit⟩
      rw [none] at some
      cases some
  constructor
  · simp [isSpace, other]
  · intro member
    exact other c (List.mem_append_right [' ', '\t', '\n', '\r'] member) rfl

theorem Spells.front {document : Document} {text : List Char} (spells : Spells document text) :
    ∃ c more, text = c :: more ∧ isSpace c = false ∧ c ≠ ']' := by
  cases spells with
  | null => exact ⟨'n', _, rfl, by decide⟩
  | bool b =>
    cases b with
    | true => exact ⟨'t', _, rfl, by decide⟩
    | false => exact ⟨'f', _, rfl, by decide⟩
  | number numeral =>
    obtain ⟨c, more, print, front⟩ := numeral.front
    obtain ⟨token, other⟩ := numeral_front front
    exact ⟨c, more, print, token, by rintro rfl; simp at other⟩
  | string literal =>
    obtain ⟨writes⟩ := literal
    exact ⟨'"', _, rfl, by decide⟩
  | noItems blank => exact ⟨'[', _, rfl, by decide⟩
  | items inner blank => exact ⟨'[', _, rfl, by decide⟩
  | noMembers blank => exact ⟨'{', _, rfl, by decide⟩
  | members inner blank => exact ⟨'{', _, rfl, by decide⟩

theorem SpellsItems.front {items : List Document} {text : List Char} (spells : SpellsItems items text) :
    ∃ c more, skipSpace text = c :: more ∧ c ≠ ']' := by
  cases spells with
  | last blank first =>
    obtain ⟨c, more, rfl, token, other⟩ := first.front
    exact ⟨c, more, by rw [skipSpace_append blank, skipSpace_cons token], other⟩
  | more blank first behind rest =>
    obtain ⟨c, more, rfl, token, other⟩ := first.front
    exact ⟨c, _, by rw [skipSpace_append blank, List.cons_append, skipSpace_cons token], other⟩

theorem SpellsMembers.front {members : List (Option String × Document)} {text : List Char}
    (spells : SpellsMembers members text) : ∃ more, skipSpace text = '"' :: more := by
  cases spells with
  | last ahead literal apart blank first =>
    obtain ⟨writes⟩ := literal
    exact ⟨_, by rw [skipSpace_append ahead, List.cons_append, skipSpace_cons rfl]⟩
  | more ahead literal apart blank first behind rest =>
    obtain ⟨writes⟩ := literal
    exact ⟨_, by rw [skipSpace_append ahead, List.cons_append, skipSpace_cons rfl]⟩

theorem stops_cons {c : Char} (ends : isDecimal c = false ∧ c ≠ '.' ∧ c ≠ 'e' ∧ c ≠ 'E') (rest : List Char) :
    Stops (c :: rest) := by
  intro d member
  obtain rfl : c = d := by simpa using member
  exact ends

theorem stops_space {space : List Char} (blank : Blank space) {c : Char}
    (ends : isDecimal c = false ∧ c ≠ '.' ∧ c ≠ 'e' ∧ c ≠ 'E') (rest : List Char) :
    Stops (space ++ c :: rest) := by
  cases space with
  | nil => exact stops_cons ends rest
  | cons d space =>
    have spaces : d = ' ' ∨ d = '\t' ∨ d = '\n' ∨ d = '\r' := by
      simpa [isSpace, or_assoc] using blank d (List.mem_cons_self ..)
    rcases spaces with rfl | rfl | rfl | rfl
    all_goals exact stops_cons (by decide) _

theorem readValue_number {n : Numeral} {text : List Char} (numeral : SpellsNumeral n text) {space rest : List Char}
    (blank : Blank space) (ends : Stops rest) (fuel : Nat) :
    readValue (fuel + 1) (space ++ (text ++ rest)) = some (.number n, rest) := by
  obtain ⟨c, more, rfl, front⟩ := numeral.front
  have read := numeral.read ends
  obtain ⟨token, other⟩ := numeral_front front
  rw [List.cons_append] at read ⊢
  rw [readValue, skipSpace_append blank, skipSpace_cons token]
  split
  case h_7 =>
    rw [read]
    rfl
  all_goals simp_all

theorem readValue_string {content : Option String} {text : List Char} (literal : SpellsString content text)
    {space : List Char} (blank : Blank space) (rest : List Char) (fuel : Nat) :
    readValue (fuel + 1) (space ++ (text ++ rest)) = some (.string content, rest) := by
  obtain ⟨more, opens, read⟩ := literal.read rest
  rw [readValue, skipSpace_append blank, opens, skipSpace_cons rfl]
  simp only [read, Option.map_some]

theorem readValue_noItems {within space : List Char} (inner : Blank within) (blank : Blank space) (rest : List Char)
    (fuel : Nat) : readValue (fuel + 1) (space ++ '[' :: (within ++ ']' :: rest)) = some (.array [], rest) := by
  rw [readValue, skipSpace_append blank, skipSpace_cons rfl]
  simp only [skipSpace_append inner, skipSpace_cons (c := ']') rfl]

theorem readValue_noMembers {within space : List Char} (inner : Blank within) (blank : Blank space) (rest : List Char)
    (fuel : Nat) : readValue (fuel + 1) (space ++ '{' :: (within ++ '}' :: rest)) = some (.object [], rest) := by
  rw [readValue, skipSpace_append blank, skipSpace_cons rfl]
  simp only [skipSpace_append inner, skipSpace_cons (c := '}') rfl]

theorem readValue_items {items : List Document} {text space rest : List Char} {fuel : Nat} {c : Char}
    {more : List Char} (token : skipSpace text = c :: more) (other : c ≠ ']') (blank : Blank space)
    (read : readItems fuel text = some (items, rest)) :
    readValue (fuel + 1) (space ++ '[' :: text) = some (.array items, rest) := by
  rw [← readItems_skipSpace, token] at read
  rw [readValue, skipSpace_append blank, skipSpace_cons rfl]
  simp only [token]
  split
  · simp_all
  · rw [read]
    rfl

theorem readValue_members {members : List (Option String × Document)} {text space rest : List Char}
    {fuel : Nat} {more : List Char} (token : skipSpace text = '"' :: more) (blank : Blank space)
    (read : readMembers fuel text = some (members, rest)) :
    readValue (fuel + 1) (space ++ '{' :: text) = some (.object members, rest) := by
  rw [← readMembers_skipSpace, token] at read
  rw [readValue, skipSpace_append blank, skipSpace_cons rfl]
  simp only [token]
  split
  · simp_all
  · rw [read]
    rfl

variable {name : Option String} {title before between text rest after : List Char} {fuel : Nat} {value : Document}

theorem readMembers_last (ahead : Blank before) (literal : SpellsString name title) (apart : Blank between)
    (read : readValue fuel text = some (value, rest)) (closes : skipSpace rest = '}' :: after) :
    readMembers (fuel + 1) (before ++ (title ++ (between ++ ':' :: text))) = some ([(name, value)], after) := by
  obtain ⟨more, opens, named⟩ := literal.read (between ++ ':' :: text)
  rw [readMembers, skipSpace_append ahead, opens, skipSpace_cons rfl]
  simp only [named, skipSpace_append apart, skipSpace_cons (c := ':') rfl, read, closes]

theorem readMembers_more {others : List (Option String × Document)} {last : List Char} (ahead : Blank before)
    (literal : SpellsString name title) (apart : Blank between)
    (read : readValue fuel text = some (value, rest)) (further : skipSpace rest = ',' :: after)
    (more : readMembers fuel after = some (others, last)) :
    readMembers (fuel + 1) (before ++ (title ++ (between ++ ':' :: text))) = some ((name, value) :: others, last) := by
  obtain ⟨inside, opens, named⟩ := literal.read (between ++ ':' :: text)
  rw [readMembers, skipSpace_append ahead, opens, skipSpace_cons rfl]
  simp only [named, skipSpace_append apart, skipSpace_cons (c := ':') rfl, read, further, more, Option.map_some]

-- by recursion on the spelling; two units of fuel for each character are enough, since every step
-- into a value or on to the next one leaves a character behind
mutual

/-- Whatever spells a document is read as this document, up to where it ends. -/
theorem Spells.read {document : Document} {text : List Char} :
    Spells document text → ∀ {space rest : List Char} {fuel : Nat}, Blank space → Stops rest →
      2 * text.length < fuel → readValue fuel (space ++ (text ++ rest)) = some (document, rest)
  | .null, _, _, _ + 1, blank, _, _ => by
    rw [readValue, skipSpace_append blank]
    rfl
  | .bool b, _, _, _ + 1, blank, _, _ => by
    rw [readValue, skipSpace_append blank]
    cases b <;> rfl
  | .number numeral, _, _, _ + 1, blank, ends, _ => readValue_number numeral blank ends _
  | .string literal, _, _, _ + 1, blank, _, _ => readValue_string literal blank _ _
  | .noItems inner, _, rest, fuel + 1, blank, _, _ => by
    have read := readValue_noItems inner blank rest fuel
    simpa using read
  | @Spells.items items text within inner closes, space, rest, fuel + 1, blank, _, enough => by
    obtain ⟨c, more, token, other⟩ := inner.front
    have room : 2 * text.length + 1 < fuel := by
      simp at enough
      omega
    have inside : readItems fuel (text ++ (within ++ ']' :: rest)) = some (items, rest) :=
      inner.read closes room
    have read := readValue_items (skipSpace_append_of_token token _) other blank inside
    simpa using read
  | .noMembers inner, _, rest, fuel + 1, blank, _, _ => by
    have read := readValue_noMembers inner blank rest fuel
    simpa using read
  | @Spells.members members text within inner closes, space, rest, fuel + 1, blank, _, enough => by
    obtain ⟨more, token⟩ := inner.front
    have room : 2 * text.length + 1 < fuel := by
      simp at enough
      omega
    have inside : readMembers fuel (text ++ (within ++ '}' :: rest)) = some (members, rest) :=
      inner.read closes room
    have read := readValue_members (skipSpace_append_of_token token _) blank inside
    simpa using read

theorem SpellsItems.read {items : List Document} {text : List Char} :
    SpellsItems items text → ∀ {space rest : List Char} {fuel : Nat}, Blank space →
      2 * text.length + 1 < fuel → readItems fuel (text ++ (space ++ ']' :: rest)) = some (items, rest)
  | @SpellsItems.last item text before ahead first, space, rest, fuel + 1, blank, enough => by
    have room : 2 * text.length < fuel := by
      simp at enough
      omega
    have ends : Stops (space ++ ']' :: rest) := stops_space blank (by decide) rest
    rw [List.append_assoc, readItems, first.read ahead ends room]
    simp only [skipSpace_append blank, skipSpace_cons (c := ']') rfl]
  | @SpellsItems.more item items text others before after ahead first behind more, space, rest, fuel + 1, blank,
      enough => by
    have room : 2 * text.length < fuel ∧ 2 * others.length + 1 < fuel := by
      simp at enough
      omega
    have ends : Stops (after ++ ',' :: (others ++ (space ++ ']' :: rest))) := stops_space behind (by decide) _
    rw [List.append_assoc, List.append_assoc, List.append_assoc, List.cons_append, readItems,
      first.read ahead ends room.1]
    simp only [skipSpace_append behind, skipSpace_cons (c := ',') rfl, more.read blank room.2, Option.map_some]

theorem SpellsMembers.read {members : List (Option String × Document)} {text : List Char} :
    SpellsMembers members text → ∀ {space rest : List Char} {fuel : Nat}, Blank space →
      2 * text.length + 1 < fuel → readMembers fuel (text ++ (space ++ '}' :: rest)) = some (members, rest)
  | @SpellsMembers.last name value title text before between within ahead literal apart inside first, space, rest,
      fuel + 1, blank, enough => by
    have room : 2 * text.length < fuel := by
      simp at enough
      omega
    have ends : Stops (space ++ '}' :: rest) := stops_space blank (by decide) rest
    have closes : skipSpace (space ++ '}' :: rest) = '}' :: rest := by
      rw [skipSpace_append blank, skipSpace_cons rfl]
    simp only [List.append_assoc, List.cons_append]
    exact readMembers_last ahead literal apart (first.read inside ends room) closes
  | @SpellsMembers.more name value members title text others before between within after ahead literal apart inside
      first behind more, space, rest, fuel + 1, blank, enough => by
    have room : 2 * text.length < fuel ∧ 2 * others.length + 1 < fuel := by
      simp at enough
      omega
    have ends : Stops (after ++ ',' :: (others ++ (space ++ '}' :: rest))) := stops_space behind (by decide) _
    have further : skipSpace (after ++ ',' :: (others ++ (space ++ '}' :: rest))) =
        ',' :: (others ++ (space ++ '}' :: rest)) := by
      rw [skipSpace_append behind, skipSpace_cons rfl]
    simp only [List.append_assoc, List.cons_append]
    exact readMembers_more ahead literal apart (first.read inside ends room.1) further (more.read blank room.2)

end

theorem blank_nil : Blank [] := nofun

/-- A text that holds a document has blanks around it and nothing else. -/
def Holds (document : Document) (text : List Char) : Prop :=
  ∃ before inner after, Blank before ∧ Spells document inner ∧ Blank after ∧ text = before ++ (inner ++ after)

theorem holds_of_spells {document : Document} {text : List Char} (spells : Spells document text) :
    Holds document text :=
  ⟨[], text, [], blank_nil, spells, blank_nil, by rw [List.nil_append, List.append_nil]⟩

theorem ofText?_of_holds {document : Document} {text : List Char} (holds : Holds document text) :
    Document.ofText? text = some document := by
  obtain ⟨before, inner, after, ahead, spells, behind, rfl⟩ := holds
  have ends : Stops after := by
    intro c member
    have space := behind c (List.mem_of_mem_head? member)
    have spaces : c = ' ' ∨ c = '\t' ∨ c = '\n' ∨ c = '\r' := by simpa [isSpace, or_assoc] using space
    rcases spaces with rfl | rfl | rfl | rfl
    all_goals decide
  have enough : 2 * inner.length < 2 * (before ++ (inner ++ after)).length + 1 := by
    simp
    omega
  have nothing : skipSpace after = [] := by
    have blanks := skipSpace_append behind []
    rwa [List.append_nil] at blanks
  rw [Document.ofText?, spells.read ahead ends enough]
  simp [nothing]

mutual

/-- Documents that can be written and read back: every string is a text, and every number
grammatical. -/
def Document.Sound : Document → Prop
  | .null => True
  | .bool _ => True
  | .number n => n.Grammatical
  | .string s => s.isSome = true
  | .array items => SoundItems items
  | .object members => SoundMembers members

def SoundItems : List Document → Prop
  | [] => True
  | item :: rest => item.Sound ∧ SoundItems rest

def SoundMembers : List (Option String × Document) → Prop
  | [] => True
  | (name, value) :: rest => name.isSome = true ∧ value.Sound ∧ SoundMembers rest

end

theorem blank_newline (level : Nat) : Blank (Document.newline level) := by
  intro c member
  rcases List.mem_cons.1 member with rfl | indent
  · rfl
  · rw [List.eq_of_mem_replicate indent]
    rfl

theorem blank_space : Blank [' '] := by
  intro c member
  rw [List.mem_singleton.1 member]
  rfl

mutual

theorem spells_prettyAt (level : Nat) :
    (document : Document) → document.Sound → Spells document (document.prettyAt level)
  | .null, _ => .null
  | .bool b, _ => .bool b
  | .number _, grammatical => .number (spellsNumeral_print grammatical)
  | .string (some s), _ => .string (spellsString_quoted s)
  | .array [], _ => .noItems blank_nil
  | .array (item :: rest), sound => by
    have inner := spells_prettyItems (level + 1) (item :: rest) (by simp) sound
    have spells := Spells.items inner (blank_newline level)
    rw [Document.prettyAt]
    simpa using spells
  | .object [], _ => .noMembers blank_nil
  | .object (member :: rest), sound => by
    have inner := spells_prettyMembers (level + 1) (member :: rest) (by simp) sound
    have spells := Spells.members inner (blank_newline level)
    rw [Document.prettyAt]
    simpa using spells

theorem spells_prettyItems (level : Nat) : (items : List Document) → items ≠ [] → SoundItems items →
    SpellsItems items (Document.prettyItems level items)
  | [], nonempty, _ => absurd rfl nonempty
  | [item], _, sound => .last (blank_newline level) (spells_prettyAt level item sound.1)
  | item :: next :: rest, _, sound => by
    have first := spells_prettyAt level item sound.1
    have others := spells_prettyItems level (next :: rest) (by simp) sound.2
    have spells := SpellsItems.more (blank_newline level) first blank_nil others
    rw [Document.prettyItems]
    simpa using spells

theorem spells_prettyMembers (level : Nat) : (members : List (Option String × Document)) → members ≠ [] →
    SoundMembers members → SpellsMembers members (Document.prettyMembers level members)
  | [], nonempty, _ => absurd rfl nonempty
  | [(some name, value)], _, sound => by
    have first := spells_prettyAt level value sound.2.1
    have spells := SpellsMembers.last (blank_newline level) (spellsString_quoted name) blank_nil blank_space first
    rw [Document.prettyMembers]
    simpa [quotedOrBroken] using spells
  | (some name, value) :: next :: rest, _, sound => by
    have first := spells_prettyAt level value sound.2.1
    have others := spells_prettyMembers level (next :: rest) (by simp) sound.2.2
    have spells := SpellsMembers.more (blank_newline level) (spellsString_quoted name) blank_nil blank_space first
      blank_nil others
    rw [Document.prettyMembers]
    simpa [quotedOrBroken] using spells

end

theorem ofText?_pretty {document : Document} (sound : document.Sound) :
    Document.ofText? document.pretty = some document :=
  ofText?_of_holds (holds_of_spells (spells_prettyAt 0 document sound))

mutual

theorem spells_compact : (document : Document) → document.Sound → Spells document document.compact
  | .null, _ => .null
  | .bool b, _ => .bool b
  | .number _, grammatical => .number (spellsNumeral_print grammatical)
  | .string (some s), _ => .string (spellsString_quoted s)
  | .array [], _ => .noItems blank_nil
  | .array (item :: rest), sound => by
    have spells := Spells.items (spells_compactItems (item :: rest) (by simp) sound) blank_nil
    rw [Document.compact]
    simpa using spells
  | .object [], _ => .noMembers blank_nil
  | .object (member :: rest), sound => by
    have spells := Spells.members (spells_compactMembers (member :: rest) (by simp) sound) blank_nil
    rw [Document.compact]
    simpa using spells

theorem spells_compactItems : (items : List Document) → items ≠ [] → SoundItems items →
    SpellsItems items (Document.compactItems items)
  | [], nonempty, _ => absurd rfl nonempty
  | [item], _, sound => .last blank_nil (spells_compact item sound.1)
  | item :: next :: rest, _, sound => by
    have others := spells_compactItems (next :: rest) (by simp) sound.2
    exact .more blank_nil (spells_compact item sound.1) blank_nil others

theorem spells_compactMembers : (members : List (Option String × Document)) → members ≠ [] →
    SoundMembers members → SpellsMembers members (Document.compactMembers members)
  | [], nonempty, _ => absurd rfl nonempty
  | [(some name, value)], _, sound =>
    .last blank_nil (spellsString_quoted name) blank_nil blank_nil (spells_compact value sound.2.1)
  | (some name, value) :: next :: rest, _, sound => by
    have others := spells_compactMembers (next :: rest) (by simp) sound.2.2
    have first := spells_compact value sound.2.1
    have spells := SpellsMembers.more blank_nil (spellsString_quoted name) blank_nil blank_nil first blank_nil others
    rw [Document.compactMembers]
    simpa [quotedOrBroken] using spells

end

theorem ofText?_compact {document : Document} (sound : document.Sound) :
    Document.ofText? document.compact = some document :=
  ofText?_of_holds (holds_of_spells (spells_compact document sound))

end ClusterLifecycle.Json
