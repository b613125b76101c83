import ClusterLifecycle.Proofs.BundleTexts
import Mathlib.Data.List.TakeWhile

/-!
Any texts at all as the documents of one text. What is cut from them is blanks at their ends only, so the kinds
that each of them names are named by the whole; and where no line of theirs looks like a separator, the whole
falls apart into them again.
-/

namespace ClusterLifecycle.Text

def brokenLines : List Char → List (List Char)
  | [] => []
  | c :: rest =>
    if c = '\n' then [c] :: brokenLines rest
    else match brokenLines rest with
      | [] => [[c]]
      | line :: more => (c :: line) :: more

theorem flatten_brokenLines (text : List Char) : (brokenLines text).flatten = text := by
  induction text with
  | nil => rfl
  | cons c rest ih =>
    rw [brokenLines]
    split_ifs with ends
    · rw [List.flatten_cons, ih]
      rfl
    · cases found : brokenLines rest with
      | nil =>
        rw [found] at ih
        rw [← ih]
        rfl
      | cons line more =>
        rw [found] at ih
        rw [← ih]
        rfl

theorem lines_ne_nil (text : List Char) (some : text ≠ []) : lines text ≠ [] := by
  cases text with
  | nil => exact absurd rfl some
  | cons c rest =>
    rw [lines]
    split_ifs
    · simp
    · cases lines rest <;> simp

theorem brokenLines_of_ended {text : List Char} (ended : ∀ c ∈ text.getLast?, c = '\n') :
    brokenLines text = (lines text).map (· ++ ['\n']) := by
  induction text with
  | nil => rfl
  | cons c rest ih =>
    cases rest with
    | nil =>
      obtain rfl : c = '\n' := ended c rfl
      rfl
    | cons d more =>
      have tail := ih fun e last => ended e (by rwa [List.getLast?_cons_cons])
      rw [brokenLines, lines, tail]
      split_ifs with ends
      · rw [ends]
        rfl
      · obtain ⟨line, others, found⟩ := List.exists_cons_of_ne_nil (lines_ne_nil (d :: more) (by simp))
        rw [found]
        rfl

theorem lines_split (text rest : List Char) :
    lines (text ++ '\n' :: rest) = lines (text ++ ['\n']) ++ lines rest := by
  induction text with
  | nil => rfl
  | cons c text ih =>
    rw [List.cons_append, List.cons_append, lines, lines, ih]
    split_ifs with ends
    · rfl
    · obtain ⟨line, more, found⟩ := List.exists_cons_of_ne_nil (lines_ne_nil (text ++ ['\n']) (by simp))
      rw [found]
      rfl

theorem lines_append_single (text : List Char) {c : Char} (inline : c ≠ '\n') :
    lines (text ++ [c]) = lines text ++ [[c]] ∨
      ∃ front last, lines text = front ++ [last] ∧ lines (text ++ [c]) = front ++ [last ++ [c]] := by
  induction text with
  | nil => simp [lines, inline]
  | cons d text ih =>
    rw [List.cons_append, lines, lines]
    split_ifs with ends
    · rcases ih with own | ⟨front, last, same, joined⟩
      · exact .inl (by rw [own]; rfl)
      · exact .inr ⟨[] :: front, last, by rw [same]; rfl, by rw [joined]; rfl⟩
    · rcases ih with own | ⟨front, last, same, joined⟩
      · rw [own]
        cases lines text with
        | nil => exact .inr ⟨[], [d], rfl, rfl⟩
        | cons line more => exact .inl rfl
      · rw [same, joined]
        cases front with
        | nil => exact .inr ⟨[], d :: last, rfl, rfl⟩
        | cons line more => exact .inr ⟨(d :: line) :: more, last, rfl, rfl⟩

theorem lines_append_feed (text : List Char) :
    lines (text ++ ['\n']) = lines text ∨ lines (text ++ ['\n']) = lines text ++ [[]] := by
  induction text with
  | nil => exact .inr rfl
  | cons c text ih =>
    rw [List.cons_append, lines, lines]
    split_ifs with ends
    · rcases ih with same | empty
      · exact .inl (by rw [same])
      · exact .inr (by rw [empty]; rfl)
    · rcases ih with same | empty
      · exact .inl (by rw [same])
      · rw [empty]
        cases lines text with
        | nil => exact .inl rfl
        | cons line more => exact .inr rfl

theorem trimEnd_append_blank (text : List Char) {c : Char} (blank : isBlank c = true) :
    trimEnd (text ++ [c]) = trimEnd text := by
  rw [trimEnd, List.reverse_append, List.reverse_singleton, List.singleton_append,
    List.dropWhile_cons_of_pos blank, trimEnd]

theorem trim_append_blank (text : List Char) {c : Char} (blank : isBlank c = true) :
    trim (text ++ [c]) = trim text := by
  rw [trim, trim, trimStart, trimStart, List.dropWhile_append]
  split_ifs with nothing
  · rw [List.isEmpty_iff.1 nothing, List.dropWhile_cons_of_pos blank]
    rfl
  · exact trimEnd_append_blank _ blank

theorem exists_trimmed (text : List Char) :
    ∃ blanks, text = trimEnd text ++ blanks ∧ ∀ c ∈ blanks, isBlank c = true := by
  refine ⟨(text.reverse.takeWhile isBlank).reverse, ?_, ?_⟩
  · rw [trimEnd, ← List.reverse_append, List.takeWhile_append_dropWhile, List.reverse_reverse]
  · intro c member
    exact List.mem_takeWhile_imp (List.mem_reverse.1 member)

end ClusterLifecycle.Text

namespace ClusterLifecycle.Manifest

open Text

/-- The texts between the separators, of which the first is what comes before all of them. -/
def pieces (text : List Char) : List (List Char) :=
  ((brokenLines text).splitOn separator).map List.flatten

/-- Documents that are joined are kept apart. -/
structure KeepsApart (documents : List (List Char)) : Prop where
  kinds_eq : kinds (bundle documents) = documents.flatMap kinds
  pieces_eq : (∀ document ∈ documents, separatorLine ∉ lines (trimEnd document)) →
    pieces (bundle documents) = [] :: documents.map (trimEnd · ++ ['\n'])

def kindOf (line : List Char) : Option (List Char) :=
  (after? kindField line).map trim

theorem kinds_eq_filterMap (text : List Char) : kinds text = (lines text).filterMap kindOf :=
  rfl

theorem kindOf_append_blank (line : List Char) {c : Char} (blank : isBlank c = true) :
    kindOf (line ++ [c]) = kindOf line := by
  unfold kindOf
  cases found : after? kindField line with
  | some rest =>
    have longer : after? kindField (line ++ [c]) = some (rest ++ [c]) := by
      rw [eq_append_of_after? found, List.append_assoc, after?_append]
    rw [longer, Option.map_some, Option.map_some, trim_append_blank rest blank]
  | none =>
    cases longer : after? kindField (line ++ [c]) with
    | none => rfl
    | some rest =>
      -- the field would have to end with the blank
      have whole := eq_append_of_after? longer
      rcases List.eq_nil_or_concat rest with rfl | ⟨front, last, rfl⟩
      · rw [List.append_nil] at whole
        have colon : c = ':' := by simpa [kindField] using congrArg List.getLast? whole
        exact absurd (colon ▸ blank) (by decide)
      · rw [List.concat_eq_append, ← List.append_assoc] at whole
        rw [(List.append_inj' whole rfl).1, after?_append] at found
        cases found

theorem kindOf_blank {c : Char} (blank : isBlank c = true) : kindOf [c] = none :=
  kindOf_append_blank [] blank

theorem kinds_append_blank (text : List Char) {c : Char} (blank : isBlank c = true) :
    kinds (text ++ [c]) = kinds text := by
  simp only [kinds_eq_filterMap]
  by_cases feed : c = '\n'
  · rw [feed]
    rcases lines_append_feed text with same | empty
    · rw [same]
    · rw [empty, List.filterMap_append]
      exact List.append_nil _
  · rcases lines_append_single text feed with own | ⟨front, last, same, joined⟩
    · rw [own, List.filterMap_append, List.filterMap_cons_none (kindOf_blank blank)]
      exact List.append_nil _
    · rw [same, joined, List.filterMap_append, List.filterMap_append, List.filterMap_cons, List.filterMap_cons,
        kindOf_append_blank last blank]

theorem kinds_trimEnd (text : List Char) : kinds (trimEnd text) = kinds text := by
  have longer : ∀ blanks : List Char, (∀ c ∈ blanks, isBlank c = true) → ∀ front,
      kinds (front ++ blanks) = kinds front := by
    intro blanks
    induction blanks with
    | nil => simp
    | cons c blanks ih =>
      intro blank front
      obtain ⟨first, blank⟩ := List.forall_mem_cons.1 blank
      rw [List.append_cons, ih blank, kinds_append_blank front first]
  obtain ⟨blanks, same, blank⟩ := exists_trimmed text
  conv_rhs => rw [same, longer blanks blank]

theorem bundle_cons (document : List Char) (documents : List (List Char)) :
    bundle (document :: documents) = separatorLine ++ '\n' :: (trimEnd document ++ '\n' :: bundle documents) := by
  simp [bundle, separator, separatorLine]

theorem lines_joined (documents : List (List Char)) :
    lines (bundle documents) = documents.flatMap fun document =>
      separatorLine :: lines (trimEnd document ++ ['\n']) := by
  induction documents with
  | nil => rfl
  | cons document documents ih =>
    rw [bundle_cons, lines_append_break (by decide), lines_split, ih]
    rfl

theorem kinds_joined (documents : List (List Char)) : kinds (bundle documents) = documents.flatMap kinds := by
  rw [kinds_eq_filterMap, lines_joined, List.filterMap_flatMap]
  refine List.flatMap_congr fun document _ => ?_
  have silent : kindOf separatorLine = none := by decide
  rw [List.filterMap_cons_none silent, ← kinds_eq_filterMap, kinds_append_blank _ (by decide), kinds_trimEnd]

theorem getLast?_bundle (documents : List (List Char)) : ∀ c ∈ (bundle documents).getLast?, c = '\n' := by
  intro c last
  rcases List.eq_nil_or_concat documents with rfl | ⟨front, document, rfl⟩
  · cases last
  · have ends : bundle (front.concat document) = (bundle front ++ (separator ++ trimEnd document)) ++ ['\n'] := by
      simp [bundle]
    rw [ends, List.getLast?_concat] at last
    exact (Option.some.inj last).symm

theorem separator_not_mem {text : List Char} (free : separatorLine ∉ lines text) :
    separator ∉ brokenLines (text ++ ['\n']) := by
  rw [brokenLines_of_ended (by simp), List.mem_map]
  rintro ⟨line, member, same⟩
  obtain rfl : line = separatorLine := (List.append_left_inj ['\n']).1 same
  rcases lines_append_feed text with unchanged | empty
  · exact free (unchanged ▸ member)
  · rw [empty] at member
    rcases List.mem_append.1 member with inside | last
    · exact free inside
    · exact absurd last (by decide)

theorem pieces_joined {documents : List (List Char)}
    (free : ∀ document ∈ documents, separatorLine ∉ lines (trimEnd document)) :
    pieces (bundle documents) = [] :: documents.map (trimEnd · ++ ['\n']) := by
  have broken : brokenLines (bundle documents) =
      (documents.map fun document => brokenLines (trimEnd document ++ ['\n'])).flatMap (separator :: ·) := by
    rw [brokenLines_of_ended (getLast?_bundle documents), lines_joined, List.map_flatMap, List.flatMap_map]
    refine List.flatMap_congr fun document _ => ?_
    rw [brokenLines_of_ended (by simp)]
    rfl
  have lacking : ∀ part ∈ documents.map fun document => brokenLines (trimEnd document ++ ['\n']),
      separator ∉ part := by
    intro part member
    obtain ⟨document, listed, rfl⟩ := List.mem_map.1 member
    exact separator_not_mem (free document listed)
  have apart := splitOn_separators separator lacking
  rw [pieces, broken, apart, List.map_cons, List.map_map]
  exact congrArg _ (List.map_congr_left fun document _ => flatten_brokenLines _)

/-- Joined documents name the kinds that each of them names, and they are found again between the separators. -/
theorem joined_kept_apart (documents : List (List Char)) : KeepsApart documents :=
  ⟨kinds_joined documents, pieces_joined⟩

example : pieces (bundle [[], ['a', '\r', '\n'], ['k', 'i', 'n', 'd', ':', 'b', ' ']]) =
    [[], ['\n'], ['a', '\n'], ['k', 'i', 'n', 'd', ':', 'b', '\n']] := by
  decide

end ClusterLifecycle.Manifest
