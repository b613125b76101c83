import ClusterLifecycle.Manifest.Render
import ClusterLifecycle.Proofs.JsonGrammar
import ClusterLifecycle.Template.Evaluation

/-!
Documents written line by line. A line is a remark, or it gives something to a name, and the column
of the name says what the line belongs to. Whatever texts are given, such a document has the lines it
was written with, and each of them is read back.
-/

namespace ClusterLifecycle.Manifest

open Text Json Template

/-- A character between double quotes: escaped where it would end or break the line or the text, or
would mean something in markup. -/
def spelling (c : Char) : List Char :=
  (escape c).flatMap escapeMarkup

def scalar (s : String) : List Char :=
  '"' :: s.toList.flatMap spelling ++ ['"']

def quotedText? (shown : List Char) : Option String :=
  match Document.ofText? shown with
  | some (.string s) => s
  | _ => none

theorem stands_code {n : Nat} {a b : Char} (code : natural? 16 ['0', '0', a, b] = some n)
    (plain : n < 0xD800) : Stands ['\\', 'u', '0', '0', a, b] (Char.ofNat n) :=
  ⟨.unit n, .unit code .nil, characters?_unit plain⟩

theorem flatMap_escapeMarkup {text : List Char} (plain : ∀ c ∈ text, escapeMarkup c = [c]) :
    text.flatMap escapeMarkup = text := by
  induction text with
  | nil => rfl
  | cons c text ih =>
    rw [List.flatMap_cons, plain c (by simp), ih fun d member => plain d (by simp [member])]
    rfl

theorem escapeMarkup_of_mem_escape {c d : Char} (markup : escapeMarkup c = [c]) (member : d ∈ escape c) :
    escapeMarkup d = [d] := by
  have digit : ∀ n < 16, escapeMarkup (hexDigit n) = [hexDigit n] := by decide
  unfold escape at member
  split_ifs at member
  all_goals
    simp only [List.mem_cons, List.not_mem_nil, or_false] at member
    rcases member with rfl | rfl | rfl | rfl | rfl | rfl
  all_goals first | exact markup | decide | exact digit _ (by omega)

theorem stands_spelling (c : Char) : Stands (spelling c) c := by
  by_cases opens : c = '<'
  · rw [opens]
    exact stands_code (n := 0x3c) (by decide) (by decide)
  by_cases closes : c = '>'
  · rw [closes]
    exact stands_code (n := 0x3e) (by decide) (by decide)
  by_cases joins : c = '&'
  · rw [joins]
    exact stands_code (n := 0x26) (by decide) (by decide)
  by_cases apostrophe : c = '\''
  · rw [apostrophe]
    exact stands_code (n := 0x27) (by decide) (by decide)
  have markup : escapeMarkup c = [c] := by
    rw [escapeMarkup, if_neg opens, if_neg closes, if_neg joins, if_neg apostrophe]
  rw [spelling, flatMap_escapeMarkup fun d => escapeMarkup_of_mem_escape markup]
  exact stands_escape c

/-- A scalar stands for the text it was written for. -/
theorem quotedText?_scalar (s : String) : quotedText? (scalar s) = some s := by
  have spells : Spells (.string (some s)) (scalar s) := .string (spellsString_spelled stands_spelling s)
  rw [quotedText?, ofText?_of_holds (holds_of_spells spells)]

def Printable (text : List Char) : Prop :=
  ∀ c ∈ text, 0x20 ≤ c.toNat

instance (text : List Char) : Decidable (Printable text) :=
  List.decidableBAll (fun c : Char => 0x20 ≤ c.toNat) text

theorem Printable.newline_not_mem {text : List Char} (printable : Printable text) : '\n' ∉ text :=
  fun member => absurd (printable _ member) (by decide)

theorem Printable.append {text more : List Char} (first : Printable text) (second : Printable more) :
    Printable (text ++ more) := by
  intro c member
  exact (List.mem_append.1 member).elim (first c) (second c)

theorem printable_escapeMarkup {c : Char} (visible : 0x20 ≤ c.toNat) : Printable (escapeMarkup c) := by
  unfold escapeMarkup
  split_ifs
  case neg => simpa [Printable] using visible
  all_goals decide

theorem printable_spelling (c : Char) : Printable (spelling c) := by
  have digit : ∀ n < 16, 0x20 ≤ (hexDigit n).toNat := by decide
  have escaped : Printable (escape c) := by
    unfold escape
    split_ifs with _ _ _ _ _ _ _ control
    all_goals try decide
    · simp [Printable, digit (c.toNat / 16) (by omega), digit (c.toNat % 16) (by omega)]
    · simpa [Printable] using control
  intro d member
  obtain ⟨e, piece, inside⟩ := List.mem_flatMap.1 member
  exact printable_escapeMarkup (escaped e piece) d inside

theorem printable_scalar (s : String) : Printable (scalar s) := by
  have inner : Printable (s.toList.flatMap spelling) := by
    intro d member
    obtain ⟨c, -, inside⟩ := List.mem_flatMap.1 member
    exact printable_spelling c d inside
  have opening : Printable ['"'] := by decide
  exact (opening.append inner).append opening

def EndsVisibly (text : List Char) : Prop :=
  ∃ front c, text = front ++ [c] ∧ isBlank c = false

theorem EndsVisibly.of_all {text : List Char} (some : text ≠ []) (visible : ∀ c ∈ text, isBlank c = false) :
    EndsVisibly text :=
  ⟨text.dropLast, text.getLast some, (List.dropLast_concat_getLast some).symm,
    visible _ (List.getLast_mem some)⟩

theorem EndsVisibly.append {text : List Char} (ends : EndsVisibly text) (front : List Char) :
    EndsVisibly (front ++ text) := by
  obtain ⟨before, c, rfl, visible⟩ := ends
  exact ⟨front ++ before, c, (List.append_assoc ..).symm, visible⟩

theorem EndsVisibly.trimEnd_eq {text : List Char} (ends : EndsVisibly text) : trimEnd text = text := by
  obtain ⟨front, c, rfl, visible⟩ := ends
  rw [trimEnd, List.reverse_append, List.reverse_singleton, List.singleton_append,
    List.dropWhile_cons_of_neg (by simp [visible]), List.reverse_cons, List.reverse_reverse]

theorem trimEnd_break (text : List Char) : trimEnd (text ++ ['\n']) = trimEnd text := by
  rw [trimEnd, List.reverse_append, List.reverse_singleton, List.singleton_append,
    List.dropWhile_cons_of_pos (by decide), trimEnd]

theorem isBlank_of_isDecimal {c : Char} (digit : isDecimal c = true) : isBlank c = false := by
  simp only [isDecimal, decimalDigit?, Option.isSome_ite, Char.le_def, UInt32.le_iff_toNat_le] at digit
  have low : 48 ≤ c.toNat := digit.1
  have high : c.toNat ≤ 57 := digit.2
  simp only [isBlank, Bool.or_eq_false_iff, Bool.and_eq_false_iff, decide_eq_false_iff_not, beq_eq_false_iff_ne]
  omega

/-- What a line gives to its name: a word of the template, a text, a number or a truth value. -/
inductive Content where
  | word (w : String)
  | text (s : String)
  | count (n : UInt32)
  | truth (b : Bool)
  deriving DecidableEq, Repr

def Content.shown : Content → List Char
  | .word w => w.toList
  | .text s => scalar s
  | .count n => decimal n.toNat
  | .truth true => "True".toList
  | .truth false => "False".toList

namespace Content

def isPlain : Content → Bool
  | .word w => !w.toList.isEmpty && w.toList.all fun c => !isBlank c && 0x20 ≤ c.toNat
  | _ => true

theorem printable_shown {content : Content} (plain : content.isPlain) : Printable content.shown := by
  cases content with
  | word w =>
    intro c member
    simp only [isPlain, Bool.and_eq_true, List.all_eq_true, decide_eq_true_eq] at plain
    exact (plain.2 c member).2
  | text s => exact printable_scalar s
  | count n =>
    intro c member
    have digit := isDecimal_decimal member
    simp only [isDecimal, decimalDigit?, Option.isSome_ite, Char.le_def, UInt32.le_iff_toNat_le] at digit
    have low : 48 ≤ c.toNat := digit.1
    omega
  | truth b => cases b <;> decide

theorem endsVisibly_shown {content : Content} (plain : content.isPlain) : EndsVisibly content.shown := by
  cases content with
  | word w =>
    simp only [isPlain, Bool.and_eq_true, List.all_eq_true, Bool.not_eq_true'] at plain
    exact .of_all (by simpa [shown] using plain.1) fun c member => (plain.2 c member).1
  | text s => exact ⟨_, '"', rfl, by decide⟩
  | count n =>
    exact .of_all (by simp [shown, decimal]) fun c member => isBlank_of_isDecimal (isDecimal_decimal member)
  | truth b =>
    cases b with
    | false => exact ⟨"Fals".toList, 'e', by decide, by decide⟩
    | true => exact ⟨"Tru".toList, 'e', by decide, by decide⟩

end Content

/-- A remark or a blank line, or a name in some column with what is given to it. The first name of an
item has a hyphen and a blank before it. -/
inductive Line (α : Type) where
  | remark (text : String)
  | entry (column : Nat) (first : Bool) (name : String) (content : Option α)
  deriving DecidableEq, Repr

namespace Line

variable {α β : Type}

def map (f : α → β) : Line α → Line β
  | .remark text => .remark text
  | .entry column first name content => .entry column first name (content.map f)

def margin (column : Nat) (first : Bool) : List Char :=
  if first then List.replicate (column - 2) ' ' ++ ['-', ' '] else List.replicate column ' '

def given : Option (List Char) → List Char
  | none => []
  | some shown => ' ' :: shown

def write : Line (List Char) → List Char
  | .remark text => text.toList
  | .entry column first name content => margin column first ++ (name.toList ++ ':' :: given content)

def readEntry (column : Nat) (first : Bool) (text : List Char) : Line (List Char) :=
  .entry column first (String.ofList (text.takeWhile (· ≠ ':'))) <|
    match text.dropWhile (· ≠ ':') with
    | ':' :: ' ' :: shown => some shown
    | _ => none

def read (text : List Char) : Line (List Char) :=
  let column := (text.takeWhile (· = ' ')).length
  match text.dropWhile (· = ' ') with
  | [] => .remark (String.ofList text)
  | '#' :: _ => .remark (String.ofList text)
  | '-' :: ' ' :: rest => readEntry (column + 2) true rest
  | rest => readEntry column false rest

/-- Whether a name can be told from what stands around it. -/
def isPlainName : List Char → Bool
  | [] => false
  | c :: rest => c ≠ ' ' ∧ c ≠ '-' ∧ c ≠ '#' ∧ (c :: rest).all fun d => d ≠ ':' ∧ 0x20 ≤ d.toNat

def isPlain : Line α → Bool
  | .remark text => text.toList.all (0x20 ≤ ·.toNat) && text.toList.head?.all (· = '#')
  | .entry column first name _ => isPlainName name.toList && (!first || 2 ≤ column)

theorem isPlain_map (f : α → β) (line : Line α) : (line.map f).isPlain = line.isPlain := by
  cases line <;> rfl

theorem takeWhile_replicate (n : Nat) {c d : Char} (other : d ≠ c) (rest : List Char) :
    (List.replicate n c ++ d :: rest).takeWhile (· = c) = List.replicate n c := by
  rw [List.takeWhile_append_of_pos (by simp), List.takeWhile_cons_of_neg (by simpa), List.append_nil]

theorem dropWhile_replicate (n : Nat) {c d : Char} (other : d ≠ c) (rest : List Char) :
    (List.replicate n c ++ d :: rest).dropWhile (· = c) = d :: rest := by
  rw [List.dropWhile_append_of_pos (by simp), List.dropWhile_cons_of_neg (by simpa)]

theorem readEntry_write {name : List Char} (plain : isPlainName name) (column : Nat) (first : Bool)
    (content : Option (List Char)) :
    readEntry column first (name ++ ':' :: given content) =
      .entry column first (String.ofList name) content := by
  have free : ∀ c ∈ name, c ≠ ':' := by
    cases name with
    | nil => simp
    | cons c rest =>
      simp only [isPlainName, decide_eq_true_eq, List.all_eq_true] at plain
      exact fun d member => (plain.2.2.2 d member).1
  rw [readEntry, List.takeWhile_append_of_pos (by simpa using free),
    List.dropWhile_append_of_pos (by simpa using free), List.takeWhile_cons_of_neg (by simp),
    List.dropWhile_cons_of_neg (by simp), List.append_nil]
  cases content <;> rfl

theorem read_write {line : Line (List Char)} (plain : line.isPlain) : read line.write = line := by
  cases line with
  | remark text =>
    simp only [isPlain, Bool.and_eq_true] at plain
    have same : String.ofList text.toList = text := String.ofList_toList
    rw [write, read]
    cases shown : text.toList with
    | nil => simpa [shown] using same
    | cons c rest =>
      have hash : c = '#' := by simpa [shown] using plain.2
      rw [shown, hash] at same
      rw [hash, List.dropWhile_cons_of_neg (by decide)]
      exact congrArg remark same
  | entry column first name content =>
    simp only [isPlain, Bool.and_eq_true] at plain
    obtain ⟨c, rest, shown⟩ : ∃ c rest, name.toList = c :: rest :=
      List.exists_cons_of_ne_nil fun none => by simp [none, isPlainName] at plain
    have front : c ≠ ' ' ∧ c ≠ '-' ∧ c ≠ '#' := by
      have := plain.1
      simp only [shown, isPlainName, decide_eq_true_eq] at this
      exact ⟨this.1, this.2.1, this.2.2.1⟩
    have entry := readEntry_write plain.1 column first content
    rw [String.ofList_toList] at entry
    cases first with
    | true =>
      have deep : column - 2 + 2 = column := by
        have : 2 ≤ column := by simpa using plain.2
        omega
      rw [write, read, margin, if_pos rfl, List.append_assoc, List.cons_append,
        takeWhile_replicate _ (by decide), dropWhile_replicate _ (by decide), List.length_replicate, deep]
      exact entry
    | false =>
      rw [write, read, margin, if_neg (by decide)]
      rw [shown, List.cons_append] at entry ⊢
      rw [takeWhile_replicate _ front.1, dropWhile_replicate _ front.1, List.length_replicate, ← entry]
      split <;> simp_all

def content? : Line α → Option α
  | .remark _ => none
  | .entry _ _ _ content => content

def isEntry : Line α → Bool
  | .remark _ => false
  | .entry .. => true

theorem printable_write {line : Line (List Char)} (plain : line.isPlain)
    (shown : ∀ shown ∈ line.content?, Printable shown) : Printable line.write := by
  cases line with
  | remark text =>
    simp only [isPlain, Bool.and_eq_true, List.all_eq_true, decide_eq_true_eq] at plain
    exact plain.1
  | entry column first name content =>
    have before : Printable (margin column first) := by
      have blank : ∀ n, Printable (List.replicate n ' ') := fun n c member =>
        List.eq_of_mem_replicate member ▸ by decide
      unfold margin
      split_ifs
      · exact (blank _).append (by decide)
      · exact blank _
    have inName : Printable name.toList := by
      simp only [isPlain, Bool.and_eq_true] at plain
      cases given : name.toList with
      | nil => simp [Printable]
      | cons c rest =>
        have named := plain.1
        simp only [given, isPlainName, decide_eq_true_eq, List.all_eq_true] at named
        exact fun d member => (named.2.2.2 d member).2
    have after : Printable (':' :: given content) := by
      cases content with
      | none => decide
      | some text =>
        have colon : Printable [':', ' '] := by decide
        exact colon.append (shown text rfl)
    exact before.append (inName.append after)

theorem endsVisibly_write {line : Line (List Char)} (entry : line.isEntry)
    (ends : ∀ shown ∈ line.content?, EndsVisibly shown) : EndsVisibly line.write := by
  cases line with
  | remark text => cases entry
  | entry column first name content =>
    refine EndsVisibly.append (EndsVisibly.append ?_ name.toList) (margin column first)
    cases content with
    | none => exact ⟨[], ':', rfl, by decide⟩
    | some shown => exact (ends shown rfl).append [':', ' ']

def shown (line : Line Content) : List Char :=
  (line.map Content.shown).write

def isSound (line : Line Content) : Bool :=
  line.isPlain && line.content?.all Content.isPlain

theorem content?_map (f : α → β) (line : Line α) : (line.map f).content? = line.content?.map f := by
  cases line <;> rfl

theorem isEntry_map (f : α → β) (line : Line α) : (line.map f).isEntry = line.isEntry := by
  cases line <;> rfl

section Shown

variable {line : Line Content}

theorem isPlain_of_isSound (sound : line.isSound) : (line.map Content.shown).isPlain := by
  rw [isPlain_map]
  exact (Bool.and_eq_true .. ▸ sound).1

theorem isPlain_content (sound : line.isSound) {content : Content} (given : content ∈ line.content?) :
    content.isPlain := by
  simp only [isSound, Bool.and_eq_true, Option.mem_def.1 given, Option.all_some] at sound
  exact sound.2

theorem read_shown (sound : line.isSound) : read line.shown = line.map Content.shown :=
  read_write (isPlain_of_isSound sound)

theorem printable_shown (sound : line.isSound) : Printable line.shown := by
  refine printable_write (isPlain_of_isSound sound) fun shown given => ?_
  rw [content?_map] at given
  obtain ⟨content, member, rfl⟩ := Option.map_eq_some_iff.1 given
  exact Content.printable_shown (isPlain_content sound member)

theorem endsVisibly_shown (sound : line.isSound) (entry : line.isEntry) : EndsVisibly line.shown := by
  refine endsVisibly_write ((isEntry_map ..).trans entry) fun shown given => ?_
  rw [content?_map] at given
  obtain ⟨content, member, rfl⟩ := Option.map_eq_some_iff.1 given
  exact Content.endsVisibly_shown (isPlain_content sound member)

end Shown

end Line

end ClusterLifecycle.Manifest
