import ClusterLifecycle.Proofs.FlowSteps

/-!
The scalars of JSON as tokens between brackets: texts in quotes, names with their colons, and words and numbers.
-/

namespace ClusterLifecycle.Yaml

open Scan
open Json (escape)

/-! ### Scalars in quotes -/

def reread (s : String) : String :=
  String.ofList (folded s.toList)

def Unmarked (s : String) : Prop :=
  isMarked false s.toList = false

theorem quoted_eq (s : String) : Json.quoted s = '"' :: (printed s.toList ++ ['"']) := rfl

section Quoted

variable (here : Cursor) (text : List Char) (s : String)

theorem places_quoted : here.places (Json.quoted s ++ text) =
    ⟨'"', here.index, here.line, here.column⟩ :: (here.past '"').places (printed s.toList ++ '"' :: text) := by
  have front : IsFront '"' := by decide
  rw [quoted_eq, List.cons_append, List.append_assoc, front.places]
  rfl

theorem ahead_quoted : ahead (here.places (Json.quoted s ++ text)) = here.places (Json.quoted s ++ text) :=
  ahead_front here _ (by decide)

theorem read_quoted : Quoted.read '"' ((here.past '"').places (printed s.toList ++ '"' :: text)) =
    if isMarked false s.toList then none
    else some (folded s.toList, (here.after (Json.quoted s)).places text) := by
  have inside : ((here.past '"').column == 0) = false := here.column_past '"'
  rw [read_printed, inside]
  rfl

variable {here text s}

def Scan.behindQuoted (scan : Scan) (s : String) (rest : List Place) : Scan :=
  { scan with rest, keyAllowed := false, tokens := .scalar (reread s) false :: scan.tokens }

theorem token_quoted {scan saved : Scan} (left : scan.rest = here.places (Json.quoted s ++ text))
    (save : scan.saveCandidate ⟨'"', here.index, here.line, here.column⟩ = some saved)
    (still : saved.rest = scan.rest) :
    scan.token ⟨'"', here.index, here.line, here.column⟩ =
      if isMarked false s.toList then none
      else some (saved.behindQuoted s ((here.after (Json.quoted s)).places text)) := by
  have dispatched : scan.token ⟨'"', here.index, here.line, here.column⟩ =
      scan.quoted ⟨'"', here.index, here.line, here.column⟩ := by
    rw [places_quoted] at left
    simp [Scan.token, left, isMarker_of_ne]
  have inner : saved.rest.drop 1 = (here.past '"').places (printed s.toList ++ '"' :: text) := by
    rw [still, left, places_quoted]
    rfl
  rw [dispatched, Scan.quoted, save, Option.bind_eq_bind, Option.bind_some, inner, read_quoted]
  split_ifs <;> rfl

theorem Scan.Stands.behindQuoted {scan : Scan} {stage : Stage} (stands : scan.Stands stage) (rest : List Place) :
    (scan.behindQuoted s rest).Stands ⟨false, stage.depth, stage.tokens ++ [.scalar (reread s) false], rest⟩ where
  depth := stands.depth
  columns := stands.columns
  own := stands.own
  outer := stands.outer
  keys := nofun
  tokens := stands.tokens_cons _
  rest := rfl

variable {keys : Bool} {depth : Nat} {tokens : List Token}

theorem adds_quoted (s : String) :
    Adds keys (Json.quoted s) (Unmarked s) [.scalar (reread s) false] false Anything := by
  intro depth tokens here text _
  have one : 1 ≤ (Json.quoted s).length := by simp [quoted_eq]
  refine Leads.mono (leads_of_token (places_quoted here text s) (ahead_quoted here text s) fun scan stands left => ?_)
    one Iff.rfl
  obtain ⟨saved, save, known, still⟩ := stands.save ⟨'"', here.index, here.line, here.column⟩
  rw [← places_quoted] at left
  rw [token_quoted left save still]
  cases marked : isMarked false s.toList with
  | false => exact .inl ⟨marked, _, rfl, known.behindQuoted _⟩
  | true => exact .inr ⟨fun unmarked => by simp [Unmarked, marked] at unmarked, rfl⟩

/-! ### Names -/

/-- A name that is known for a key at its colon: it stands on one line, and the colon is near. -/
def Fits (s : String) : Prop :=
  (∀ c ∈ s.toList, separatesLines c = false) ∧ (String.ofList (Json.quoted s)).utf8ByteSize ≤ keyReach

instance : DecidablePred Fits :=
  fun s =>
    decidable_of_iff
      (s.toList.any separatesLines = false ∧ (String.ofList (Json.quoted s)).utf8ByteSize ≤ keyReach)
      (by simp [Fits])

def nameTokens (s : String) : List Token :=
  if Fits s then [.key, .scalar (reread s) false, .value] else [.scalar (reread s) false, .value]

theorem Cursor.index_after (here : Cursor) (text : List Char) :
    (here.after text).index = here.index + (String.ofList text).utf8ByteSize := by
  induction text generalizing here with
  | nil => simp [Cursor.after]
  | cons c text ih =>
    have past : (here.past c).index = here.index + c.utf8Size := by
      unfold Cursor.past
      split_ifs <;> rfl
    have behind : here.after (c :: text) = (here.past c).after text := rfl
    rw [behind, ih, past, String.ofList_cons, String.utf8ByteSize_append, String.utf8ByteSize_singleton,
      Nat.add_assoc]

theorem Cursor.line_after (here : Cursor) (text : List Char) :
    (here.after text).line = here.line + text.countP fun c => isBreak (taken c) := by
  induction text generalizing here with
  | nil => rfl
  | cons c text ih =>
    have behind : here.after (c :: text) = (here.past c).after text := rfl
    rw [behind, ih, List.countP_cons]
    unfold Cursor.past
    split_ifs
    · dsimp only
      omega
    · rfl

theorem unbroken_printed_iff {s : List Char} :
    (∀ c ∈ printed s, isBreak (taken c) = false) ↔ ∀ c ∈ s, separatesLines c = false := by
  have each : ∀ c, (∀ d ∈ escape c, isBreak (taken d) = false) ↔ separatesLines c = false := by
    intro c
    rcases escape_cases c with bare | ⟨notBare, code, escaped, escapes⟩
    · rw [escape_of_isBare bare, List.forall_mem_singleton, isBreak_taken bare]
    · rw [escaped, List.forall_mem_cons]
      exact iff_of_true ⟨rfl, escapes.unbroken⟩ (Bool.or_eq_false_iff.1 (isGap_of_escaped notBare)).2
  simp only [← each, printed, List.mem_flatMap]
  constructor
  · intro unbroken c member d printed
    exact unbroken d ⟨c, member, printed⟩
  · rintro unbroken d ⟨c, member, printed⟩
    exact unbroken c member d printed

theorem isStale_colon (column position : Nat) (required : Bool) :
    isStale ⟨':', (here.after (Json.quoted s)).index, (here.after (Json.quoted s)).line, (here.after (Json.quoted s)).column⟩
      ⟨here.index, here.line, column, position, required⟩ = !decide (Fits s) := by
  have single : (Json.quoted s).countP (fun c => isBreak (taken c)) = 0 ↔
      ∀ c ∈ s.toList, separatesLines c = false := by
    have quote : isBreak (taken '"') = false := rfl
    rw [List.countP_eq_zero, quoted_eq, List.forall_mem_cons, List.forall_mem_append, List.forall_mem_singleton]
    simp only [Bool.not_eq_true, quote, and_true, true_and, unbroken_printed_iff]
  rw [isStale, here.index_after, here.line_after, Bool.eq_iff_iff]
  simp only [Bool.or_eq_true, decide_eq_true_eq, Bool.not_eq_true', decide_eq_false_iff_not, Fits, ← single]
  omega

theorem dispatch_colon {scan : Scan} (flow : scan.inFlow = true) {text : List Char}
    (left : scan.rest = here.places (':' :: text)) :
    scan.token ⟨':', here.index, here.line, here.column⟩ = scan.value ⟨':', here.index, here.line, here.column⟩ := by
  have front : IsFront ':' := by decide
  rw [front.places] at left
  simp [Scan.token, left, isMarker_of_ne, flow]

theorem value_unnamed {scan : Scan} (stands : scan.Stands ⟨keys, depth, tokens, here.places (':' :: text)⟩)
    (left : scan.rest = here.places (':' :: text)) (unnamed : scan.candidate = none) :
    ∃ found : Scan, scan.token ⟨':', here.index, here.line, here.column⟩ = some found ∧
      found.Stands ⟨false, depth, tokens ++ [.value], (here.past ':').places text⟩ := by
  have front : IsFront ':' := by decide
  have flow := stands.inFlow
  refine ⟨({ scan with keyAllowed := false }.skip 1).emit .value, ?_, ?_⟩
  · rw [dispatch_colon flow left, Scan.value]
    split
    next found named => simp [unnamed] at named
    next => simp [openBlock, flow, allowKey]
  · rw [front.places] at left
    exact { stands with
      keys := nofun
      tokens := stands.tokens_cons .value
      rest := congrArg (fun rest => ahead (rest.drop 1)) left }

theorem value_named {scan : Scan} {last : Token}
    (stands : scan.Stands ⟨keys, depth, tokens ++ [last], here.places (':' :: text)⟩)
    (left : scan.rest = here.places (':' :: text)) {index line column : Nat} {required : Bool}
    (named : scan.candidate = some ⟨index, line, column, tokens.length, required⟩) :
    ∃ found : Scan, scan.token ⟨':', here.index, here.line, here.column⟩ = some found ∧
      found.Stands ⟨false, depth, tokens ++ [.key, last, .value], (here.past ':').places text⟩ := by
  have front : IsFront ':' := by decide
  have flow := stands.inFlow
  have before : scan.tokens = last :: tokens.reverse := by
    rw [← List.reverse_reverse scan.tokens, stands.tokens, List.reverse_append, List.reverse_singleton]
    rfl
  refine ⟨({ scan with keyAllowed := false, candidate := none, tokens := last :: .key :: tokens.reverse }.skip 1).emit
    .value, ?_, ?_⟩
  · rw [dispatch_colon flow left, Scan.value, named]
    have inserted : insertAt tokens.length [.key] { scan with candidate := none } =
        { scan with candidate := none, tokens := last :: .key :: tokens.reverse } := by
      simp [insertAt, before]
    have level : roll column tokens.length .openMapping
        { scan with candidate := none, tokens := last :: .key :: tokens.reverse } =
        { scan with candidate := none, tokens := last :: .key :: tokens.reverse } := by
      have inside : { scan with candidate := none, tokens := last :: .key :: tokens.reverse }.inFlow = true := flow
      simp [roll, inside]
    simp only [inserted, level]
    rfl
  · rw [front.places] at left
    exact { stands with
      own := nofun
      keys := nofun
      tokens := by simp [emit, skip]
      rest := congrArg (fun rest => ahead (rest.drop 1)) left }

theorem token_key {scan : Scan} (stands : scan.Stands ⟨true, depth, tokens, here.places (Json.quoted s ++ text)⟩)
    (left : scan.rest = here.places (Json.quoted s ++ text)) (unmarked : Unmarked s) :
    ∃ found : Scan, scan.token ⟨'"', here.index, here.line, here.column⟩ = some found ∧
      found.Stands ⟨false, depth, tokens ++ [.scalar (reread s) false], (here.after (Json.quoted s)).places text⟩ ∧
      found.candidate = some ⟨here.index, here.line, here.column, tokens.length, false⟩ := by
  have save := saveCandidate_eq stands.own stands.inFlow (stands.keys rfl) ⟨'"', here.index, here.line, here.column⟩
  have position : scan.tokens.length = tokens.length := by
    rw [← List.length_reverse, stands.tokens]
  have optional : Optional (some ⟨here.index, here.line, here.column, tokens.length, false⟩) := by
    rintro found ⟨⟩
    rfl
  have known : { scan with candidate := some ⟨here.index, here.line, here.column, tokens.length, false⟩ }.Stands
      ⟨true, depth, tokens, here.places (Json.quoted s ++ text)⟩ := { stands with own := optional }
  dsimp only at save
  rw [position] at save
  refine ⟨_, ?_, known.behindQuoted _, rfl⟩
  rw [token_quoted left save rfl, unmarked, if_neg Bool.false_ne_true]

/-- At the colon the key is known if the name fits. -/
theorem finish_colon {scan : Scan} {last : Token} {column : Nat} {required : Bool}
    (stands : scan.Stands ⟨keys, depth, tokens ++ [last], (here.after (Json.quoted s)).places (':' :: text)⟩)
    (named : scan.candidate = some ⟨here.index, here.line, column, tokens.length, required⟩) :
    ∃ found : Scan, found.Stands ⟨false, depth, tokens ++ if Fits s then [.key, last, .value] else [last, .value],
        (here.after (Json.quoted s ++ [':'])).places text⟩ ∧
      ∀ fuel, scan.finish (fuel + 1) = found.finish fuel := by
  have front : IsFront ':' := by decide
  have next := front.places (here.after (Json.quoted s)) text
  have turned := stands.turned next
  have round := stands.finish next (ahead_front _ text front)
  have candidate := congrArg (fresh ⟨':', (here.after (Json.quoted s)).index, (here.after (Json.quoted s)).line,
    (here.after (Json.quoted s)).column⟩) named
  rw [fresh, fresh, Option.filter_some, isStale_colon, Bool.not_not] at candidate
  have behind : here.after (Json.quoted s ++ [':']) = (here.after (Json.quoted s)).past ':' := by
    rw [here.after_append]
    rfl
  rw [behind]
  by_cases fits : Fits s
  · rw [decide_eq_true fits, if_pos rfl] at candidate
    obtain ⟨found, token, reached⟩ := value_named turned next.symm candidate
    rw [if_pos fits]
    exact ⟨found, reached, fun fuel => by rw [round, token, Option.bind_some]⟩
  · rw [decide_eq_false fits, if_neg Bool.false_ne_true] at candidate
    obtain ⟨found, token, reached⟩ := value_unnamed turned next.symm candidate
    rw [if_neg fits]
    rw [List.append_assoc] at reached
    exact ⟨found, reached, fun fuel => by rw [round, token, Option.bind_some]⟩

theorem adds_name (s : String) : Adds true (Json.quoted s ++ [':']) (Unmarked s) (nameTokens s) false Anything := by
  intro depth tokens here text _ scan stands
  have two : 2 ≤ (Json.quoted s ++ [':']).length := by simp [quoted_eq]
  rw [List.append_assoc, List.singleton_append] at stands
  have opening := places_quoted here (':' :: text) s
  have round := stands.finish opening (ahead_quoted here (':' :: text) s)
  have turned := stands.turned opening
  by_cases unmarked : Unmarked s
  · obtain ⟨named, token, known, candidate⟩ := token_key turned opening.symm unmarked
    obtain ⟨found, reached, same⟩ := finish_colon known candidate
    exact ⟨2, two, .inl ⟨unmarked, found, reached, fun fuel => by
      rw [round, token, Option.bind_some, same]⟩⟩
  · obtain ⟨saved, save, -, still⟩ := turned.save ⟨'"', here.index, here.line, here.column⟩
    have marked : isMarked false s.toList = true := by simpa [Unmarked] using unmarked
    exact ⟨1, by omega, .inr ⟨unmarked, fun fuel => by
      rw [round, token_quoted opening.symm save still, marked, if_pos rfl, Option.bind_none]⟩⟩

end Quoted

/-! ### Words -/

def isInner (c : Char) : Bool :=
  c.isAlphanum || c == '+' || c == '-' || c == '.'

/-- What is read as a plain scalar wherever it stands between brackets. -/
inductive IsWord : List Char → Prop where
  | plain {c : Char} {rest : List Char} (first : c.isAlphanum = true) (inner : ∀ d ∈ rest, isInner d = true) :
      IsWord (c :: rest)
  | negative {c : Char} {rest : List Char} (first : c.isAlphanum = true) (inner : ∀ d ∈ rest, isInner d = true) :
      IsWord ('-' :: c :: rest)

/-- What stands behind a value: a separator or a closing bracket, with spaces and line feeds before it. -/
def Delimits (text : List Char) : Prop :=
  ∃ white c rest, text = white ++ c :: rest ∧ (∀ d ∈ white, d = ' ' ∨ d = '\n') ∧ (c = ',' ∨ c = ']' ∨ c = '}')

theorem visible_of_isAlphanum {c : Char} (letter : c.isAlphanum = true) : IsVisible c := by
  have parts : c.isAlphanum = (c.isUpper || c.isLower || c.isDigit) := rfl
  have upper : c.isUpper = true ↔ 65 ≤ c.toNat ∧ c.toNat ≤ 90 := decide_eq_true_iff
  have lower : c.isLower = true ↔ 97 ≤ c.toNat ∧ c.toNat ≤ 122 :=
    Bool.and_eq_true_iff.trans (and_congr decide_eq_true_iff decide_eq_true_iff)
  have digit : c.isDigit = true ↔ 48 ≤ c.toNat ∧ c.toNat ≤ 57 :=
    Bool.and_eq_true_iff.trans (and_congr decide_eq_true_iff decide_eq_true_iff)
  rw [parts, Bool.or_eq_true, Bool.or_eq_true, upper, lower, digit] at letter
  rw [IsVisible]
  omega

theorem ne_of_isInner {c d : Char} (inner : isInner c = true) (other : isInner d = false) : c ≠ d := by
  rintro rfl
  rw [inner] at other
  cases other

theorem isInner_of_isAlphanum {c : Char} (letter : c.isAlphanum = true) : isInner c = true := by
  simp [isInner, letter]

theorem visible_of_isInner {c : Char} (inner : isInner c = true) : IsVisible c := by
  simp only [isInner, Bool.or_eq_true, beq_iff_eq] at inner
  rcases inner with ((letter | rfl) | rfl) | rfl
  · exact visible_of_isAlphanum letter
  all_goals decide

theorem IsWord.inner {word : List Char} (isWord : IsWord word) : ∀ c ∈ word, isInner c = true := by
  cases isWord with
  | plain first inner => exact List.forall_mem_cons.2 ⟨isInner_of_isAlphanum first, inner⟩
  | negative first inner =>
    exact List.forall_mem_cons.2 ⟨rfl, List.forall_mem_cons.2 ⟨isInner_of_isAlphanum first, inner⟩⟩

section Words

variable {word text : List Char} (here : Cursor)

theorem stretch_word (inner : ∀ c ∈ word, isInner c = true)
    (ends : ∀ here : Cursor, Plain.stretch true (here.places text) = some ([], here.places text)) :
    Plain.stretch true (here.places (word ++ text)) = some (word, (here.after word).places text) := by
  induction word generalizing here with
  | nil => exact ends here
  | cons c word ih =>
    obtain ⟨first, inner⟩ := List.forall_mem_cons.1 inner
    have visible := visible_of_isInner first
    have plain : c ≠ ':' ∧ Plain.isFlowMark c = false := by
      refine ⟨ne_of_isInner first (by decide), ?_⟩
      simp [Plain.isFlowMark, ne_of_isInner first (d := ',') (by decide), ne_of_isInner first (d := '[') (by decide),
        ne_of_isInner first (d := ']') (by decide), ne_of_isInner first (d := '{') (by decide),
        ne_of_isInner first (d := '}') (by decide)]
    have front : IsFront c := ⟨visible, ne_of_isInner first (by decide)⟩
    rw [List.cons_append, front.places, Plain.stretch, ih (here.past c) inner]
    simp [visible.unblank, visible.unbroken, plain]
    rfl

theorem stretch_delimiter {c : Char} (stops : c = ' ' ∨ c = '\n' ∨ c = ',' ∨ c = ']' ∨ c = '}') (rest : List Char) :
    Plain.stretch true (here.places (c :: rest)) = some ([], here.places (c :: rest)) := by
  rcases stops with rfl | rfl | rfl | rfl | rfl <;>
    simp [here.places_cons, Cursor.place, taken, Plain.stretch, isBlank, isBreak, Plain.isFlowMark]

theorem readFrom_delimiter {c : Char} (stops : c = ',' ∨ c = ']' ∨ c = '}') (rest : List Char) (fuel : Nat) :
    Plain.readFrom true 0 (fuel + 1) (here.places (c :: rest)) = some ([], false, here.places (c :: rest)) := by
  have front : IsFront c := by
    rcases stops with rfl | rfl | rfl <;> decide
  have stretch := stretch_delimiter here (.inr (.inr stops)) rest
  have other : c ≠ '-' ∧ c ≠ '.' := by
    rcases stops with rfl | rfl | rfl <;> decide
  have bound : isBoundary (here.places (c :: rest)) = false := by
    rw [front.places, isBoundary, isMarker_of_ne other.1, isMarker_of_ne other.2]
    rfl
  have comment : startsWith (· == '#') (here.places (c :: rest)) = false := by
    rw [front.places]
    exact beq_false_of_ne front.2
  rw [Plain.readFrom, stretch]
  simp [bound, comment]

theorem places_white {white : List Char} (blank : ∀ c ∈ white, c = ' ' ∨ c = '\n') :
    ∀ p ∈ here.places white, isBlank p.char = true ∨ isBreak p.char = true := by
  induction white generalizing here with
  | nil => exact nofun
  | cons c white ih =>
    obtain ⟨first, blank⟩ := List.forall_mem_cons.1 blank
    rw [here.places_cons (by rcases first with rfl | rfl <;> decide)]
    refine List.forall_mem_cons.2 ⟨?_, ih (here.past c) blank⟩
    rcases first with rfl | rfl
    · exact .inl rfl
    · exact .inr rfl

theorem IsWord.unbounded (isWord : IsWord word) (text : List Char) :
    isBoundary (here.places (word ++ text)) = false ∧ startsWith (· == '#') (here.places (word ++ text)) = false := by
  cases isWord with
  | @plain c rest first inner =>
    have front : IsFront c := ⟨visible_of_isAlphanum first, ne_of_isInner (isInner_of_isAlphanum first) (by decide)⟩
    have other : c ≠ '-' ∧ c ≠ '.' := by
      constructor <;> rintro rfl <;> exact absurd first (by decide)
    rw [List.cons_append, front.places, isBoundary, isMarker_of_ne other.1, isMarker_of_ne other.2]
    exact ⟨rfl, beq_false_of_ne front.2⟩
  | @negative c rest first inner =>
    have front : IsFront c := ⟨visible_of_isAlphanum first, ne_of_isInner (isInner_of_isAlphanum first) (by decide)⟩
    have hyphen : IsFront '-' := by decide
    have other : c ≠ '-' := by
      rintro rfl
      exact absurd first (by decide)
    rw [List.cons_append, List.cons_append, hyphen.places, front.places, isBoundary, isMarker_of_second other,
      isMarker_of_ne (by decide : '-' ≠ '.')]
    exact ⟨rfl, rfl⟩

theorem read_word (isWord : IsWord word) (delimits : Delimits text) :
    ∃ broken rest, Plain.read true 0 (here.places (word ++ text)) = some (word, broken, rest) ∧
      ahead rest = ahead ((here.after word).places text) := by
  obtain ⟨white, c, rest, rfl, blank, stops⟩ := delimits
  obtain ⟨bound, comment⟩ := isWord.unbounded here (white ++ c :: rest)
  have ends : ∀ here : Cursor, Plain.stretch true (here.places (white ++ c :: rest)) =
      some ([], here.places (white ++ c :: rest)) := by
    intro here
    cases white with
    | nil => exact stretch_delimiter here (.inr (.inr stops)) rest
    | cons d white =>
      have space := blank d (by simp)
      exact stretch_delimiter here (by rcases space with rfl | rfl <;> simp) _
  have stretch := stretch_word here isWord.inner ends
  have free : '\r' ∉ white := by
    intro member
    rcases blank _ member with same | same <;> cases same
  have front : IsFront c := by
    rcases stops with rfl | rfl | rfl <;> decide
  have unspaced : isSpaced (((here.after word).after white).places (c :: rest)) = false := by
    rw [front.places, isSpaced, front.1.unblank, front.1.unbroken]
    rfl
  obtain ⟨gap, found, -⟩ := Gap.read_append (places_white (here.after word) blank) unspaced
  rw [← Cursor.places_append _ free] at found
  refine ⟨!gap.breaks.isEmpty, ((here.after word).after white).places (c :: rest), ?_, ?_⟩
  · have some : word ≠ [] := by
      cases isWord <;> exact List.cons_ne_nil _ _
    obtain ⟨n, length⟩ : ∃ n, (here.places (word ++ (white ++ c :: rest))).length = n + 1 := by
      obtain ⟨d, more, rfl⟩ := List.exists_cons_of_ne_nil some
      rw [List.cons_append, here.places_cons (visible_of_isInner (isWord.inner d (by simp)) |>.ne (by decide))]
      exact ⟨_, List.length_cons⟩
    have behind := readFrom_delimiter ((here.after word).after white) stops rest n
    rw [Plain.read, length, Plain.readFrom, bound, comment, stretch]
    simp [some, found, behind]
  · exact (ahead_white _ _ blank).symm

theorem isIndicator_of_isAlphanum {c : Char} (letter : c.isAlphanum = true) : isIndicator c = false := by
  by_contra mark
  have none : ['-', '?', ':', ',', '[', ']', '{', '}', '#', '&', '*', '!', '|', '>', '\'', '"', '%', '@', '\x60'].any
      Char.isAlphanum = false := by decide
  rw [Bool.not_eq_false, isIndicator, List.contains_iff_mem] at mark
  exact Bool.false_ne_true (none.symm.trans (List.any_eq_true.2 ⟨c, mark, letter⟩))

theorem token_word {scan : Scan} (flow : scan.inFlow = true) {c : Char} {more : List Char}
    (isWord : IsWord (c :: more)) (left : scan.rest = here.places (c :: more ++ text)) :
    scan.token ⟨c, here.index, here.line, here.column⟩ = scan.plain ⟨c, here.index, here.line, here.column⟩ := by
  cases isWord with
  | plain first inner =>
    have front : IsFront c := ⟨visible_of_isAlphanum first, ne_of_isInner (isInner_of_isAlphanum first) (by decide)⟩
    have indicator := isIndicator_of_isAlphanum first
    have point : c ≠ '.' := by
      rintro rfl
      exact absurd first (by decide)
    have starts : ∀ rest, startsPlain true c rest = true := by
      intro rest
      simp [startsPlain, indicator, front.1.unblank]
    rw [List.cons_append, front.places] at left
    simp only [isIndicator, List.contains_cons, List.contains_nil, Bool.or_eq_false_iff,
      beq_eq_false_iff_ne] at indicator
    simp [Scan.token, left, isMarker_of_ne, flow, starts, point, indicator]
  | @negative d more first inner =>
    have front : IsFront d := ⟨visible_of_isAlphanum first, ne_of_isInner (isInner_of_isAlphanum first) (by decide)⟩
    have hyphen : IsFront '-' := by decide
    have other : d ≠ '-' := by
      rintro rfl
      exact absurd first (by decide)
    rw [List.cons_append, List.cons_append, hyphen.places, front.places] at left
    simp [Scan.token, left, isMarker_of_ne, isMarker_of_second, other, flow, isSpaced, startsPlain, startsWith,
      front.1.unblank, front.1.unbroken]

theorem adds_word {keys : Bool} (isWord : IsWord word) :
    Adds keys word True [.scalar (String.ofList word) true] false Delimits := by
  intro depth tokens here text delimits
  obtain ⟨broken, rest, read, reached⟩ := read_word here isWord delimits
  have some : word ≠ [] := by
    cases isWord <;> exact List.cons_ne_nil _ _
  obtain ⟨c, more, rfl⟩ := List.exists_cons_of_ne_nil some
  have inner := isWord.inner c (by simp)
  have front : IsFront c := ⟨visible_of_isInner inner, ne_of_isInner inner (by decide)⟩
  refine Leads.mono (leads_of_token (front.places here (more ++ text)) (ahead_front here (more ++ text) front)
    fun scan stands left => .inl ⟨trivial, ?_⟩) (by simp) Iff.rfl
  obtain ⟨saved, save, known, still⟩ := stands.save ⟨c, here.index, here.line, here.column⟩
  rw [← front.places] at left
  have floor : saved.floor = 0 := by
    rw [Scan.floor, known.columns]
  refine ⟨({ saved with rest, keyAllowed := broken }).emit (.scalar (String.ofList (c :: more)) true), ?_, ?_⟩
  · rw [token_word here stands.inFlow isWord left, Scan.plain, save]
    simp only [Option.bind_eq_bind, Option.bind_some, known.inFlow, floor, still, left]
    rw [← List.cons_append, read]
    rfl
  · exact { known with
      keys := nofun
      tokens := known.tokens_cons _
      rest := reached }

end Words

end ClusterLifecycle.Yaml
