import ClusterLifecycle.Proofs.FlowScalars
import ClusterLifecycle.Proofs.JsonGrammar
import ClusterLifecycle.Yaml.Node

/-!
JSON documents that are printed with indentation and read as YAML. The scanner finds the brackets, the separators and
the names, and the nodes follow the document; texts are read anew, and a name that is no key spoils everything.
-/

namespace ClusterLifecycle.Yaml

open Json
open Json.Document (prettyAt prettyItems prettyMembers newline)

/-! ### Tokens -/

mutual

def tokensOf : Document → List Token
  | .null => [.scalar "null" true]
  | .bool b => [.scalar (String.ofList (boolText b)) true]
  | .number n => [.scalar (String.ofList n.print) true]
  | .string s => [.scalar (reread (s.getD "")) false]
  | .array items => .openFlowSequence :: (itemTokens items ++ [.closeFlowSequence])
  | .object members => .openFlowMapping :: (memberTokens members ++ [.closeFlowMapping])

def itemTokens : List Document → List Token
  | [] => []
  | [item] => tokensOf item
  | item :: next :: rest => tokensOf item ++ .separator :: itemTokens (next :: rest)

def memberTokens : List (Option String × Document) → List Token
  | [] => []
  | [(name, value)] => nameTokens (name.getD "") ++ tokensOf value
  | (name, value) :: next :: rest =>
    nameTokens (name.getD "") ++ tokensOf value ++ .separator :: memberTokens (next :: rest)

end

mutual

def Each (text name : String → Prop) : Document → Prop
  | .string s => ∀ t ∈ s, text t
  | .array items => EachItem text name items
  | .object members => EachMember text name members
  | _ => True

def EachItem (text name : String → Prop) : List Document → Prop
  | [] => True
  | item :: rest => Each text name item ∧ EachItem text name rest

def EachMember (text name : String → Prop) : List (Option String × Document) → Prop
  | [] => True
  | (title, value) :: rest => (∀ t ∈ title, name t) ∧ Each text name value ∧ EachMember text name rest

end

section Each

variable {text other name title : String → Prop}

mutual

theorem each_and : (document : Document) →
    (Each (fun t => text t ∧ other t) (fun t => name t ∧ title t) document ↔
      Each text name document ∧ Each other title document)
  | .null | .bool _ | .number _ => by simp [Each]
  | .string none => by simp [Each]
  | .string (some s) => by simp [Each]
  | .array items => eachItem_and items
  | .object members => eachMember_and members

theorem eachItem_and : (items : List Document) →
    (EachItem (fun t => text t ∧ other t) (fun t => name t ∧ title t) items ↔
      EachItem text name items ∧ EachItem other title items)
  | [] => by simp [EachItem]
  | item :: rest => by
    rw [EachItem, EachItem, EachItem, each_and item, eachItem_and rest, and_and_and_comm]

theorem eachMember_and : (members : List (Option String × Document)) →
    (EachMember (fun t => text t ∧ other t) (fun t => name t ∧ title t) members ↔
      EachMember text name members ∧ EachMember other title members)
  | [] => by simp [EachMember]
  | (titled, value) :: rest => by
    rw [EachMember, EachMember, EachMember, each_and value, eachMember_and rest, forall₂_and]
    constructor
    · rintro ⟨⟨first, second⟩, ⟨inner, within⟩, more, further⟩
      exact ⟨⟨first, inner, more⟩, second, within, further⟩
    · rintro ⟨⟨first, inner, more⟩, second, within, further⟩
      exact ⟨⟨first, second⟩, ⟨inner, within⟩, more, further⟩

end

mutual

theorem each_of_forall (texts : ∀ t, text t) (names : ∀ t, name t) : (document : Document) → Each text name document
  | .null | .bool _ | .number _ => trivial
  | .string _ => fun t _ => texts t
  | .array items => eachItem_of_forall texts names items
  | .object members => eachMember_of_forall texts names members

theorem eachItem_of_forall (texts : ∀ t, text t) (names : ∀ t, name t) :
    (items : List Document) → EachItem text name items
  | [] => trivial
  | item :: rest => ⟨each_of_forall texts names item, eachItem_of_forall texts names rest⟩

theorem eachMember_of_forall (texts : ∀ t, text t) (names : ∀ t, name t) :
    (members : List (Option String × Document)) → EachMember text name members
  | [] => trivial
  | (_, value) :: rest =>
    ⟨fun t _ => names t, each_of_forall texts names value, eachMember_of_forall texts names rest⟩

end

end Each

theorem white_newline (level : Nat) : ∀ c ∈ newline level, c = ' ' ∨ c = '\n' := by
  intro c member
  rcases List.mem_cons.1 member with feed | indent
  · exact .inr feed
  · exact .inl (List.eq_of_mem_replicate indent)

theorem delimits_separator (text : List Char) : Delimits (',' :: text) :=
  ⟨[], ',', text, rfl, nofun, .inl rfl⟩

theorem delimits_close {c : Char} {token : Token} (closes : Closes c token) (level : Nat) (text : List Char) :
    Delimits (newline level ++ c :: text) :=
  ⟨newline level, c, text, rfl, white_newline level, .inr (closes.imp And.left And.left)⟩

theorem isWord_null : IsWord ['n', 'u', 'l', 'l'] :=
  .plain rfl (List.all_eq_true.1 rfl)

theorem isWord_bool (b : Bool) : IsWord (boolText b) := by
  cases b with
  | true => exact .plain rfl (List.all_eq_true.1 rfl)
  | false => exact .plain rfl (List.all_eq_true.1 rfl)

theorem isAlphanum_of_isDecimal {c : Char} (digit : Text.isDecimal c = true) : c.isAlphanum = true := by
  simp only [Text.isDecimal, Text.decimalDigit?, Char.le_def, Option.isSome_ite] at digit
  have within : c.isDigit = true := by
    rw [Char.isDigit, Bool.and_eq_true, decide_eq_true_eq, decide_eq_true_eq]
    exact digit
  rw [Char.isAlphanum, within, Bool.or_true]

theorem isInner_of_isDecimal {c : Char} (digit : Text.isDecimal c = true) : isInner c = true :=
  isInner_of_isAlphanum (isAlphanum_of_isDecimal digit)

theorem inner_print {n : Numeral} (grammatical : n.Grammatical) : ∀ c ∈ n.print, isInner c = true := by
  have sign : ∀ c ∈ (if n.negative then ['-'] else []), isInner c = true := by
    cases n.negative <;> exact List.all_eq_true.1 rfl
  have fraction : ∀ c ∈ (if n.fraction.isEmpty then [] else '.' :: n.fraction), isInner c = true := by
    cases n.fraction.isEmpty with
    | true => simp
    | false =>
      exact List.forall_mem_cons.2 ⟨rfl, fun c member => isInner_of_isDecimal (grammatical.fractionDigits c member)⟩
  rw [Numeral.print]
  simp only [List.forall_mem_append]
  refine ⟨⟨⟨sign, fun c member => isInner_of_isDecimal (grammatical.wholeDigits c member)⟩, fraction⟩, ?_⟩
  cases written : n.exponent with
  | none => simp
  | some exponent =>
    obtain ⟨negative, digits⟩ := exponent
    have decimal := (grammatical.exponent negative digits written).2
    have inner : ∀ c ∈ digits, isInner c = true := fun c member => isInner_of_isDecimal (decimal c member)
    refine List.forall_mem_cons.2 ⟨rfl, List.forall_mem_cons.2 ⟨?_, inner⟩⟩
    cases negative <;> rfl

theorem isWord_print {n : Numeral} (grammatical : n.Grammatical) : IsWord n.print := by
  have inner := inner_print grammatical
  obtain ⟨c, more, whole, digit⟩ := grammatical.whole_front
  have first := isAlphanum_of_isDecimal digit
  rw [Numeral.print, whole] at inner ⊢
  cases negative : n.negative with
  | false =>
    rw [negative] at inner
    exact .plain first fun d member => inner d (List.mem_cons_of_mem _ member)
  | true =>
    rw [negative] at inner
    exact .negative first fun d member => inner d (List.mem_cons_of_mem _ (List.mem_cons_of_mem _ member))

section Pieces

variable {level : Nat} {piece others : List Char} {ok okay : Prop} {added further : List Token} {keys left : Bool}

theorem Adds.separated (first : Adds keys piece ok added left Delimits)
    (second : Adds true others okay further false Delimits) :
    Adds keys (piece ++ ',' :: others) (ok ∧ okay) (added ++ .separator :: further) false Delimits := by
  have separated := (adds_separator left).append second fun _ _ => trivial
  exact (first.append separated fun text _ => delimits_separator (others ++ text)).congr (by simp)

theorem Adds.enclosed {opening closing : Char} {opened closed : Token} (inside : Adds true piece ok added left Delimits)
    (opens : Opens opening opened) (closes : Closes closing closed) :
    Adds keys (opening :: piece ++ newline level ++ [closing]) ok (opened :: (added ++ [closed])) false Delimits :=
  (adds_brackets opens closes (inside.padded (white_newline level)) (delimits_close closes level)).anywhere

theorem Adds.member (value : Adds false piece ok added false Delimits) (level : Nat) (name : String) :
    Adds true (newline level ++ quotedOrBroken (some name) ++ ':' :: ' ' :: piece) (Unmarked name ∧ ok)
      (nameTokens name ++ added) false Delimits := by
  have space : ∀ c ∈ [' '], c = ' ' ∨ c = '\n' := by simp
  have titled := ((adds_name name).behind (white_newline level)).append (value.behind space) fun _ _ => trivial
  simpa [quotedOrBroken] using titled

end Pieces

mutual

/-- A printed document is read as its tokens, if none of its texts is marked. -/
theorem adds_pretty (level : Nat) : (document : Document) → document.Sound → ∀ keys : Bool,
    Adds keys (prettyAt level document) (Each Unmarked Unmarked document) (tokensOf document) false Delimits
  | .null, _, keys => by
    rw [prettyAt, tokensOf]
    exact (adds_word isWord_null).congr (by simp [Each])
  | .bool b, _, keys => by
    rw [prettyAt, tokensOf]
    exact (adds_word (isWord_bool b)).congr (by simp [Each])
  | .number n, sound, keys => by
    rw [prettyAt, tokensOf]
    exact (adds_word (isWord_print sound)).congr (by simp [Each])
  | .string (some s), _, keys => by
    rw [prettyAt, tokensOf]
    exact (adds_quoted s).anywhere.congr (by simp [Each])
  | .array [], _, keys => by
    rw [prettyAt, tokensOf, itemTokens]
    exact (adds_brackets (.inl ⟨rfl, rfl⟩) (.inl ⟨rfl, rfl⟩) adds_nil fun _ => trivial).anywhere.congr
      (by simp [Each, EachItem])
  | .array (item :: rest), sound, keys => by
    have inner := adds_prettyItems (level + 1) (item :: rest) (by simp) sound true
    rw [prettyAt, tokensOf]
    exact (inner.enclosed (.inl ⟨rfl, rfl⟩) (.inl ⟨rfl, rfl⟩)).congr (by simp [Each])
  | .object [], _, keys => by
    rw [prettyAt, tokensOf, memberTokens]
    exact (adds_brackets (.inr ⟨rfl, rfl⟩) (.inr ⟨rfl, rfl⟩) adds_nil fun _ => trivial).anywhere.congr
      (by simp [Each, EachMember])
  | .object (member :: rest), sound, keys => by
    have inner := adds_prettyMembers (level + 1) (member :: rest) (by simp) sound
    rw [prettyAt, tokensOf]
    exact (inner.enclosed (.inr ⟨rfl, rfl⟩) (.inr ⟨rfl, rfl⟩)).congr (by simp [Each])

theorem adds_prettyItems (level : Nat) : (items : List Document) → items ≠ [] → SoundItems items → ∀ keys : Bool,
    Adds keys (prettyItems level items) (EachItem Unmarked Unmarked items) (itemTokens items) false Delimits
  | [item], _, sound, keys => by
    have first := (adds_pretty level item sound.1 keys).behind (white_newline level)
    rw [prettyItems, itemTokens]
    exact first.congr (by simp [EachItem])
  | item :: next :: rest, _, sound, keys => by
    have first := (adds_pretty level item sound.1 keys).behind (white_newline level)
    have others := adds_prettyItems level (next :: rest) (by simp) sound.2 true
    rw [prettyItems, itemTokens]
    exact (first.separated others).congr (by simp [EachItem])

theorem adds_prettyMembers (level : Nat) : (members : List (Option String × Document)) → members ≠ [] →
    SoundMembers members →
    Adds true (prettyMembers level members) (EachMember Unmarked Unmarked members) (memberTokens members) false Delimits
  | [(some name, value)], _, sound => by
    have first := (adds_pretty level value sound.2.1 false).member level name
    rw [prettyMembers, memberTokens]
    exact first.congr (by simp [EachMember])
  | (some name, value) :: next :: rest, _, sound => by
    have first := (adds_pretty level value sound.2.1 false).member level name
    have others := adds_prettyMembers level (next :: rest) (by simp) sound.2.2
    rw [prettyMembers, memberTokens]
    exact (first.separated others).congr (by simp [EachMember, and_assoc])

end

/-! ### Characters -/

/-- Something that is true of the visible characters, of spaces and of line feeds. -/
structure Common (kind : Char → Prop) : Prop where
  visible : ∀ c, IsVisible c → kind c
  space : kind ' '
  feed : kind '\n'

section Characters

variable {kind : Char → Prop}

theorem Common.newline (common : Common kind) (level : Nat) : ∀ c ∈ newline level, kind c := by
  intro c member
  rcases white_newline level c member with rfl | rfl
  · exact common.space
  · exact common.feed

theorem Common.word (common : Common kind) {word : List Char} (isWord : IsWord word) : ∀ c ∈ word, kind c :=
  fun c member => common.visible c (visible_of_isInner (isWord.inner c member))

theorem Common.quoted_iff (common : Common kind) (s : String) :
    (∀ c ∈ quoted s, kind c) ↔ ∀ c ∈ printed s.toList, kind c := by
  have quote := common.visible '"' (by decide)
  rw [quoted_eq, List.forall_mem_cons, List.forall_mem_append, List.forall_mem_singleton]
  exact ⟨fun all => all.2.1, fun all => ⟨quote, all, quote⟩⟩

mutual

theorem Common.pretty_iff (common : Common kind) (level : Nat) : (document : Document) → document.Sound →
    ((∀ c ∈ prettyAt level document, kind c) ↔
      Each (fun t => ∀ c ∈ printed t.toList, kind c) (fun t => ∀ c ∈ printed t.toList, kind c) document)
  | .null, _ => by
    rw [prettyAt]
    exact iff_of_true (common.word isWord_null) trivial
  | .bool b, _ => by
    rw [prettyAt]
    exact iff_of_true (common.word (isWord_bool b)) trivial
  | .number n, sound => by
    rw [prettyAt]
    exact iff_of_true (common.word (isWord_print sound)) trivial
  | .string (some s), _ => by
    rw [prettyAt, quotedOrBroken, common.quoted_iff, Each]
    simp
  | .array [], _ => by
    have brackets : kind '[' ∧ kind ']' := ⟨common.visible _ (by decide), common.visible _ (by decide)⟩
    simp [prettyAt, Each, EachItem, brackets]
  | .array (item :: rest), sound => by
    have brackets : kind '[' ∧ kind ']' := ⟨common.visible _ (by decide), common.visible _ (by decide)⟩
    have inside := common.prettyItems_iff (level + 1) (item :: rest) sound
    have line := iff_true_intro (common.newline level)
    simp only [prettyAt, List.cons_append, List.forall_mem_append, List.forall_mem_cons, inside, line, brackets, Each,
      List.not_mem_nil, false_implies, implies_true, true_and, and_true]
  | .object [], _ => by
    have brackets : kind '\x7b' ∧ kind '\x7d' := ⟨common.visible _ (by decide), common.visible _ (by decide)⟩
    simp [prettyAt, Each, EachMember, brackets]
  | .object (member :: rest), sound => by
    have brackets : kind '\x7b' ∧ kind '\x7d' := ⟨common.visible _ (by decide), common.visible _ (by decide)⟩
    have inside := common.prettyMembers_iff (level + 1) (member :: rest) sound
    have line := iff_true_intro (common.newline level)
    simp only [prettyAt, List.cons_append, List.forall_mem_append, List.forall_mem_cons, inside, line, brackets, Each,
      List.not_mem_nil, false_implies, implies_true, true_and, and_true]

theorem Common.prettyItems_iff (common : Common kind) (level : Nat) : (items : List Document) → SoundItems items →
    ((∀ c ∈ prettyItems level items, kind c) ↔
      EachItem (fun t => ∀ c ∈ printed t.toList, kind c) (fun t => ∀ c ∈ printed t.toList, kind c) items)
  | [], _ => by
    rw [prettyItems]
    exact iff_of_true nofun trivial
  | [item], sound => by
    have first := common.pretty_iff level item sound.1
    have line := iff_true_intro (common.newline level)
    simp only [prettyItems, List.forall_mem_append, first, line, EachItem, true_and, and_true]
  | item :: next :: rest, sound => by
    have comma := common.visible ',' (by decide)
    have first := common.pretty_iff level item sound.1
    have others := common.prettyItems_iff level (next :: rest) sound.2
    have line := iff_true_intro (common.newline level)
    rw [EachItem, ← others]
    simp only [prettyItems, List.forall_mem_append, List.forall_mem_cons, first, line, comma, true_and]

theorem Common.prettyMembers_iff (common : Common kind) (level : Nat) :
    (members : List (Option String × Document)) → SoundMembers members →
    ((∀ c ∈ prettyMembers level members, kind c) ↔
      EachMember (fun t => ∀ c ∈ printed t.toList, kind c) (fun t => ∀ c ∈ printed t.toList, kind c) members)
  | [], _ => by
    rw [prettyMembers]
    exact iff_of_true nofun trivial
  | [(some name, value)], sound => by
    have marks : kind ':' ∧ kind ' ' := ⟨common.visible _ (by decide), common.space⟩
    have title := common.quoted_iff name
    have first := common.pretty_iff level value sound.2.1
    have line := iff_true_intro (common.newline level)
    simp only [prettyMembers, quotedOrBroken, List.forall_mem_append, List.forall_mem_cons, title, first, line, marks,
      EachMember, Option.mem_def, Option.some.injEq, forall_eq', true_and, and_true]
  | (some name, value) :: next :: rest, sound => by
    have marks : kind ':' ∧ kind ' ' := ⟨common.visible _ (by decide), common.space⟩
    have comma := common.visible ',' (by decide)
    have title := common.quoted_iff name
    have first := common.pretty_iff level value sound.2.1
    have others := common.prettyMembers_iff level (next :: rest) sound.2.2
    have line := iff_true_intro (common.newline level)
    rw [EachMember, ← others]
    simp only [prettyMembers, quotedOrBroken, List.forall_mem_append, List.forall_mem_cons, title, first, line, marks,
      comma, Option.mem_def, Option.some.injEq, forall_eq', true_and, and_assoc]

end

end Characters

/-! ### Whole texts -/

/-- A text whose characters are allowed as they are printed, and of which no line looks like a bound. -/
def Readable (s : String) : Prop :=
  (∀ c ∈ printed s.toList, isAllowed c = true) ∧ Unmarked s

theorem common_allowed : Common fun c => isAllowed c = true :=
  ⟨fun _ visible => visible.allowed, rfl, rfl⟩

theorem common_unreturned : Common fun c => c ≠ '\r' :=
  ⟨fun _ visible => visible.ne (by decide), by decide, by decide⟩

theorem each_readable_iff {document : Document} (sound : document.Sound) : Each Readable Readable document ↔
    (∀ c ∈ document.pretty, isAllowed c = true) ∧ Each Unmarked Unmarked document := by
  rw [Document.pretty, common_allowed.pretty_iff 0 document sound, ← each_and]
  rfl

theorem return_not_mem_pretty {document : Document} (sound : document.Sound) : '\r' ∉ document.pretty := by
  have none : ∀ t : String, ∀ c ∈ printed t.toList, c ≠ '\r' := by
    rintro t c member rfl
    exact return_not_mem_printed t.toList member
  exact fun member => (common_unreturned.pretty_iff 0 document sound).2 (each_of_forall none none document) _ member rfl

theorem exists_inside {members : List (Option String × Document)} (sound : (Document.object members).Sound) :
    ∃ inside left before, (Document.object members).pretty = '\x7b' :: (inside ++ ['\x7d']) ∧ before ['\x7d'] ∧
      Adds true inside (Each Unmarked Unmarked (.object members)) (memberTokens members) left before := by
  cases members with
  | nil =>
    refine ⟨[], true, Anything, ?_, trivial, ?_⟩
    · rw [Document.pretty, prettyAt]
      rfl
    · rw [memberTokens]
      exact adds_nil.congr (by simp [Each, EachMember])
  | cons member rest =>
    have inner := (adds_prettyMembers 1 (member :: rest) (by simp) sound).padded (white_newline 0)
    refine ⟨_, _, _, ?_, delimits_close (.inr ⟨rfl, rfl⟩) 0 [], inner⟩
    rw [Document.pretty, prettyAt]
    rfl

/-- The tokens of a printed object, if it can be read at all. -/
theorem tokens?_pretty {members : List (Option String × Document)} (sound : (Document.object members).Sound) :
    Gives (Each Readable Readable (.object members)) (tokensOf (.object members))
      (tokens? (String.ofList (Document.object members).pretty)) := by
  obtain ⟨inside, left, before, print, ends, adds⟩ := exists_inside sound
  have length := origin.length_places (return_not_mem_pretty sound)
  have enough : inside.length + 3 ≤ (origin.places (Document.object members).pretty).length + 1 := by
    rw [length, print, List.length_cons, List.length_append, List.length_singleton]
  have gives := finish_brackets (.inr ⟨rfl, rfl⟩) (.inr ⟨rfl, rfl⟩) adds ends enough
  have places : Gives (∀ c ∈ (Document.object members).pretty, isAllowed c = true)
      (origin.places (Document.object members).pretty)
      (Place.ofText? (String.ofList (Document.object members).pretty)) := by
    rw [Place.ofText?, String.toList_ofList]
    exact ⟨fun allowed => if_pos (List.all_eq_true.2 allowed), fun other => if_neg (mt List.all_eq_true.1 other)⟩
  rw [← print] at gives
  rw [tokens?, tokensOf]
  exact (places.bind gives).congr (each_readable_iff sound).symm

end ClusterLifecycle.Yaml
