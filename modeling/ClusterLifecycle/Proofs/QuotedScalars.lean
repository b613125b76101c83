import ClusterLifecycle.Proofs.TextPlaces
import Mathlib.Data.List.DropRight
import Mathlib.Data.List.TakeWhile

/-!
Texts that are printed as JSON strings and read as YAML scalars in double quotes. A line separator, a paragraph
separator or a next-line character is printed as it is and read as a break, so the spaces around it are lost,
and what follows it may look like the end of the document.
-/

namespace ClusterLifecycle.Yaml

open Json (escape)

/-! ### Gaps -/

def separatesLines (c : Char) : Bool :=
  c == '\u0085' || c == '\u2028' || c == '\u2029'

def isGap (c : Char) : Bool :=
  c == ' ' || separatesLines c

theorem isBare_of_isGap {c : Char} (gap : isGap c = true) : IsBare c := by
  simp only [isGap, separatesLines, Bool.or_eq_true, beq_iff_eq] at gap
  rcases gap with rfl | (rfl | rfl) | rfl <;> exact ⟨by decide, by decide, by decide⟩

theorem IsBare.ne_return {c : Char} (bare : IsBare c) : c ≠ '\r' := by
  rintro rfl
  exact absurd bare.1 (by decide)

theorem taken_of_inline {c : Char} (inline : separatesLines c = false) : taken c = c := by
  simp only [separatesLines, Bool.or_eq_false_iff, beq_eq_false_iff_ne] at inline
  exact if_neg inline.1.1

theorem isBreak_taken {c : Char} (bare : IsBare c) : isBreak (taken c) = separatesLines c := by
  by_cases next : c = '\u0085'
  · rw [next]
    decide
  · have feed : c ≠ '\n' := by
      rintro rfl
      exact absurd bare.1 (by decide)
    simp [taken, next, isBreak, separatesLines, beq_false_of_ne feed, beq_false_of_ne next]

theorem isBlank_taken {c : Char} (bare : IsBare c) : isBlank (taken c) = (c == ' ') := by
  by_cases next : c = '\u0085'
  · rw [next]
    decide
  · have tab : c ≠ '\t' := by
      rintro rfl
      exact absurd bare.1 (by decide)
    simp [taken, next, isBlank, tab]

def Gap.ofChars (chars : List Char) : Gap :=
  ⟨chars, chars.filter isBreak⟩

theorem breaks_append {gap rest : List Place} (within : ∀ p ∈ gap, isBlank p.char = true ∨ isBreak p.char = true)
    (ends : isSpaced rest = false) :
    breaks 0 (gap ++ rest) = some ((gap.map Place.char).filter isBreak, rest) := by
  induction gap with
  | nil =>
    cases rest with
    | nil => cases ends
    | cons p rest =>
      rw [isSpaced, Bool.or_eq_false_iff] at ends
      simp [breaks, ends.1, ends.2]
  | cons p gap ih =>
    obtain ⟨first, within⟩ := List.forall_mem_cons.1 within
    rw [List.cons_append, breaks, ih within]
    by_cases ending : isBreak p.char = true
    · simp [ending]
    · simp [ending, first.resolve_right ending]

theorem Gap.folded_of_break (blanks others : List Char) (b : Char) (breaks : List Char) :
    (Gap.mk blanks (b :: breaks)).folded = (Gap.mk others (b :: breaks)).folded := by
  unfold Gap.folded
  split <;> simp_all

theorem takeWhile_blanks {blanks : List Place} (blank : ∀ p ∈ blanks, isBlank p.char = true) {q : Place}
    (stop : isBlank q.char = false) (rest : List Place) :
    (blanks ++ q :: rest).takeWhile (fun p => isBlank p.char) = blanks := by
  rw [List.takeWhile_append_of_pos blank, List.takeWhile_cons_of_neg (by simp [stop]), List.append_nil]

theorem isBreak_of_isBlank {c : Char} (blank : isBlank c = true) : isBreak c = false := by
  simp only [isBlank, Bool.or_eq_true, beq_iff_eq] at blank
  rcases blank with rfl | rfl <;> decide

theorem Gap.read_blanks {blanks : List Place} (blank : ∀ p ∈ blanks, isBlank p.char = true) {q : Place}
    (unblank : isBlank q.char = false) (unbroken : isBreak q.char = false) (rest : List Place) :
    Gap.read 0 (blanks ++ q :: rest) = some (⟨blanks.map Place.char, []⟩, q :: rest) := by
  unfold Gap.read
  simp only [takeWhile_blanks blank unblank, List.drop_left]
  simp [startsWith, unbroken]

theorem Gap.read_break {blanks others rest : List Place} (blank : ∀ p ∈ blanks, isBlank p.char = true) {b : Place}
    (ending : isBreak b.char = true) (within : ∀ p ∈ others, isBlank p.char = true ∨ isBreak p.char = true)
    (ends : isSpaced rest = false) :
    Gap.read 0 (blanks ++ b :: (others ++ rest)) =
      some (⟨[], b.char :: (others.map Place.char).filter isBreak⟩, rest) := by
  have stop : isBlank b.char = false := by
    by_contra other
    rw [isBreak_of_isBlank (by simpa using other)] at ending
    cases ending
  have tail := breaks_append (List.forall_mem_cons.2 ⟨.inr ending, within⟩) ends
  rw [List.cons_append, List.map_cons, List.filter_cons_of_pos ending] at tail
  unfold Gap.read
  simp only [takeWhile_blanks blank stop, List.drop_left, tail]
  simp [startsWith, ending]

theorem Gap.read_append {gap rest : List Place} (within : ∀ p ∈ gap, isBlank p.char = true ∨ isBreak p.char = true)
    (ends : isSpaced rest = false) :
    ∃ found, Gap.read 0 (gap ++ rest) = some (found, rest) ∧
      found.folded = (Gap.ofChars (gap.map Place.char)).folded := by
  have blank : ∀ p ∈ gap.takeWhile fun p => isBlank p.char, isBlank p.char = true :=
    fun p member => List.mem_takeWhile_imp (p := fun p : Place => isBlank p.char) member
  have none : ((gap.takeWhile fun p => isBlank p.char).map Place.char).filter isBreak = [] := by
    simpa [List.filter_eq_nil_iff] using fun p member => isBreak_of_isBlank (blank p member)
  have split := List.takeWhile_append_dropWhile (p := fun p : Place => isBlank p.char) (l := gap)
  cases later : gap.dropWhile fun p => isBlank p.char with
  | nil =>
    rw [later, List.append_nil] at split
    cases rest with
    | nil => cases ends
    | cons q rest =>
      obtain ⟨unblank, unbroken⟩ := Bool.or_eq_false_iff.1 ends
      rw [split] at blank none
      exact ⟨_, Gap.read_blanks blank unblank unbroken rest, by rw [Gap.ofChars, none]⟩
  | cons b others =>
    have stop : isBlank b.char = false := by
      have first := List.head?_dropWhile_not (fun p : Place => isBlank p.char) gap
      rwa [later] at first
    rw [later] at split
    have ending : isBreak b.char = true := (within b (by rw [← split]; simp)).resolve_left (by simp [stop])
    have tail : ∀ p ∈ others, isBlank p.char = true ∨ isBreak p.char = true :=
      fun p member => within p (by rw [← split]; simp [member])
    have read := Gap.read_break blank ending tail ends
    rw [← List.cons_append, ← List.append_assoc, split] at read
    refine ⟨_, read, ?_⟩
    rw [← split, Gap.ofChars, List.map_append, List.filter_append, none, List.nil_append, List.map_cons,
      List.filter_cons_of_pos ending]
    exact Gap.folded_of_break _ _ _ _

/-! ### Bounds of documents -/

def printed (s : List Char) : List Char :=
  s.flatMap escape

theorem printed_cons (c : Char) (s : List Char) : printed (c :: s) = escape c ++ printed s :=
  List.flatMap_cons ..

theorem printed_append (first rest : List Char) : printed (first ++ rest) = printed first ++ printed rest :=
  List.flatMap_append ..

/-- Three times a mark, and a gap. A line that begins so bounds a document. -/
def startsMarker (mark : Char) : List Char → Bool
  | a :: b :: c :: d :: _ => a == mark && b == mark && c == mark && isGap d
  | _ => false

def startsBound (s : List Char) : Bool :=
  startsMarker '-' s || startsMarker '.' s

/-- Whether a line of a text begins as the bound of a document. Where the text begins, a line begins if `fresh`
says so. -/
def isMarked : Bool → List Char → Bool
  | _, [] => false
  | fresh, c :: rest => (fresh && startsBound (c :: rest)) || isMarked (separatesLines c) rest

section Bounds

variable (here : Cursor) (rest : List Char)

theorem places_bare {c : Char} (bare : IsBare c) (s : List Char) : here.places (printed (c :: s) ++ rest) =
    here.place c :: (here.past c).places (printed s ++ rest) := by
  rw [printed_cons, escape_of_isBare bare, List.append_assoc, List.singleton_append,
    here.places_cons bare.ne_return]

theorem places_escaped {c : Char} {code : List Char} (escaped : escape c = '\\' :: code) (s : List Char) :
    here.places (printed (c :: s) ++ rest) =
      here.place '\\' :: (here.past '\\').places (code ++ (printed s ++ rest)) := by
  rw [printed_cons, escaped, List.append_assoc, List.cons_append, here.places_cons (by decide)]

theorem places_quote : here.places ('"' :: rest) = here.place '"' :: (here.past '"').places rest :=
  here.places_cons (by decide) rest

theorem isSpaced_printed (s : List Char) :
    isSpaced (here.places (printed s ++ '"' :: rest)) = s.head?.any isGap := by
  cases s with
  | nil =>
    rw [printed, List.flatMap_nil, List.nil_append, places_quote]
    rfl
  | cons c s =>
    rcases escape_cases c with bare | ⟨notBare, code, escaped, -⟩
    · have own : (here.place c).char = taken c := rfl
      rw [places_bare here _ bare, isSpaced, own, isBlank_taken bare, isBreak_taken bare]
      rfl
    · rw [places_escaped here _ escaped]
      have other : isGap c = false := by
        by_contra gap
        exact notBare (isBare_of_isGap (by simpa using gap))
      simp [isSpaced, Cursor.place, taken, isBlank, isBreak, other]

theorem eq_cons_of_places {mark : Char} (known : mark = '-' ∨ mark = '.') {s : List Char} {p : Place}
    {more : List Place} (found : here.places (printed s ++ '"' :: rest) = p :: more) (same : p.char = mark) :
    ∃ t, s = mark :: t ∧ p.column = here.column ∧ more = (here.past mark).places (printed t ++ '"' :: rest) := by
  cases s with
  | nil =>
    obtain ⟨rfl, -⟩ := List.cons.inj ((places_quote here rest).symm.trans found)
    rcases known with rfl | rfl <;> cases same
  | cons c s =>
    rcases escape_cases c with bare | ⟨-, code, escaped, -⟩
    · obtain ⟨rfl, rfl⟩ := List.cons.inj ((places_bare here _ bare s).symm.trans found)
      have whole : taken c = mark := same
      have own : c = mark := by
        by_cases next : c = '\u0085'
        · rw [next] at whole
          rcases known with rfl | rfl <;> cases whole
        · rwa [taken, if_neg next] at whole
      subst own
      exact ⟨s, rfl, rfl, rfl⟩
    · obtain ⟨rfl, -⟩ := List.cons.inj ((places_escaped here _ escaped s).symm.trans found)
      rcases known with rfl | rfl <;> cases same

theorem isMarker_printed {mark : Char} (known : mark = '-' ∨ mark = '.') (s : List Char) :
    isMarker mark (here.places (printed s ++ '"' :: rest)) = (here.column == 0 && startsMarker mark s) := by
  have bare : IsBare mark := by
    rcases known with rfl | rfl <;> exact ⟨by decide, by decide, by decide⟩
  have inline : (taken mark = mark) ∧ separatesLines mark = false := by
    rcases known with rfl | rfl <;> decide
  rw [Bool.eq_iff_iff]
  constructor
  · intro found
    unfold isMarker at found
    split at found
    next p q r text first =>
      simp only [Bool.and_eq_true, beq_iff_eq] at found
      obtain ⟨⟨⟨⟨column, one⟩, two⟩, three⟩, spaced⟩ := found
      obtain ⟨s, rfl, same, second⟩ := eq_cons_of_places here rest known first one
      obtain ⟨s, rfl, -, third⟩ := eq_cons_of_places _ rest known second.symm two
      obtain ⟨s, rfl, -, later⟩ := eq_cons_of_places _ rest known third.symm three
      rw [later, isSpaced_printed] at spaced
      cases s with
      | nil => cases spaced
      | cons d s =>
        rw [same] at column
        simpa [startsMarker, column] using spaced
    · cases found
  · intro found
    obtain ⟨column, found⟩ := Bool.and_eq_true_iff.1 found
    unfold startsMarker at found
    split at found
    next a b c d s =>
      simp only [Bool.and_eq_true, beq_iff_eq] at found
      obtain ⟨⟨⟨rfl, rfl⟩, rfl⟩, gap⟩ := found
      rw [places_bare here _ bare, places_bare _ _ bare, places_bare _ _ bare, isMarker, isSpaced_printed]
      simpa [Cursor.place, inline.1, gap] using column
    · cases found

theorem isBoundary_printed (s : List Char) :
    isBoundary (here.places (printed s ++ '"' :: rest)) = (here.column == 0 && startsBound s) := by
  rw [isBoundary, isMarker_printed here rest (.inl rfl), isMarker_printed here rest (.inr rfl), startsBound,
    Bool.and_or_distrib_left]

end Bounds

/-! ### Reading -/

def foldedGap (gap : List Char) : List Char :=
  (Gap.ofChars (gap.map taken)).folded

def foldedFrom : List Char → List Char → List Char
  | gap, [] => foldedGap gap
  | gap, c :: rest => if isGap c then foldedFrom (gap ++ [c]) rest else foldedGap gap ++ c :: foldedFrom [] rest

def folded (s : List Char) : List Char :=
  foldedFrom [] s

theorem foldedGap_nil : foldedGap [] = [] := rfl

theorem folded_cons {c : Char} (other : isGap c = false) (s : List Char) : folded (c :: s) = c :: folded s := by
  rw [folded, foldedFrom, if_neg (by simp [other]), foldedGap_nil]
  rfl

theorem folded_append {gap rest : List Char} (gaps : ∀ c ∈ gap, isGap c = true) (ends : rest.head?.any isGap = false) :
    folded (gap ++ rest) = foldedGap gap ++ folded rest := by
  have behind : ∀ before, foldedFrom before (gap ++ rest) = foldedFrom (before ++ gap) rest := by
    induction gap with
    | nil => simp
    | cons c gap ih =>
      intro before
      obtain ⟨first, gaps⟩ := List.forall_mem_cons.1 gaps
      rw [List.cons_append, foldedFrom, if_pos first, ih gaps, List.append_assoc]
      rfl
  rw [folded, behind, List.nil_append]
  cases rest with
  | nil => exact (List.append_nil _).symm
  | cons c rest =>
    have other : isGap c = false := ends
    rw [foldedFrom, if_neg (by simp [other]), folded_cons other]
    rfl

theorem readFrom_cons (fuel : Nat) (p : Place) (rest : List Place) :
    Quoted.readFrom '"' (fuel + 1) (p :: rest) =
      if isBoundary (p :: rest) then none
      else if isBlank p.char || isBreak p.char then
        (Gap.read 0 (p :: rest)).bind fun (gap, rest) =>
          (Quoted.readFrom '"' fuel rest).map fun (more, rest) => (gap.folded ++ more, rest)
      else if p.char = '"' then some ([], rest)
      else if p.char = '\\' then
        if startsWith isBreak rest then
          (breaks 0 (rest.drop 1)).bind fun (found, rest) =>
            (Quoted.readFrom '"' fuel rest).map fun (more, rest) => (found ++ more, rest)
        else (Quoted.escape rest).bind fun (c, rest) =>
          (Quoted.readFrom '"' fuel rest).map fun (more, rest) => (c :: more, rest)
      else (Quoted.readFrom '"' fuel rest).map fun (more, rest) => (p.char :: more, rest) := by
  rw [Quoted.readFrom]
  simp only [Option.bind_eq_bind, Option.map_eq_bind, Function.comp_def]
  split_ifs <;> simp_all

theorem printed_of_gaps {gap : List Char} (gaps : ∀ c ∈ gap, isGap c = true) : printed gap = gap := by
  induction gap with
  | nil => rfl
  | cons c gap ih =>
    obtain ⟨first, gaps⟩ := List.forall_mem_cons.1 gaps
    rw [printed_cons, escape_of_isBare (isBare_of_isGap first), ih gaps]
    rfl

theorem startsBound_of_ne {c : Char} (hyphen : c ≠ '-') (point : c ≠ '.') (s : List Char) :
    startsBound (c :: s) = false := by
  have other : ∀ mark, c ≠ mark → startsMarker mark (c :: s) = false := by
    intro mark apart
    unfold startsMarker
    split
    next a b d e s same =>
      obtain ⟨rfl, -⟩ := List.cons.inj same
      simp [apart]
    · rfl
  rw [startsBound, other _ hyphen, other _ point]
  rfl

theorem startsBound_of_isGap {c : Char} (gap : isGap c = true) (s : List Char) : startsBound (c :: s) = false := by
  refine startsBound_of_ne ?_ ?_ s <;> rintro rfl <;> exact absurd gap (by decide)

theorem isGap_of_escaped {c : Char} (notBare : ¬ IsBare c) : isGap c = false := by
  by_contra other
  exact notBare (isBare_of_isGap (by simpa using other))

theorem startsBound_of_escaped {c : Char} (notBare : ¬ IsBare c) (s : List Char) : startsBound (c :: s) = false := by
  refine startsBound_of_ne ?_ ?_ s
  all_goals
    rintro rfl
    exact notBare ⟨by decide, by decide, by decide⟩

theorem isMarked_escaped {c : Char} {code : List Char} (notBare : ¬ IsBare c) (escaped : escape c = '\\' :: code)
    (escapes : Escapes code c) (here : Cursor) (s : List Char) :
    isMarked (here.column == 0) (c :: s) = isMarked ((here.after (escape c)).column == 0) s := by
  have inline : separatesLines c = false := (Bool.or_eq_false_iff.1 (isGap_of_escaped notBare)).2
  have column : ((here.after (escape c)).column == 0) = false := by
    refine here.column_after (by simp [escaped]) ?_
    rw [escaped, List.forall_mem_cons]
    exact ⟨rfl, escapes.unbroken⟩
  rw [isMarked, startsBound_of_escaped notBare, inline, column, Bool.and_false, Bool.false_or]

theorem isMarked_append {gap : List Char} (gaps : ∀ c ∈ gap, isGap c = true) (here : Cursor) (rest : List Char) :
    isMarked (here.column == 0) (gap ++ rest) = isMarked ((here.after gap).column == 0) rest := by
  induction gap generalizing here with
  | nil => rfl
  | cons c gap ih =>
    obtain ⟨first, gaps⟩ := List.forall_mem_cons.1 gaps
    rw [List.cons_append, isMarked, startsBound_of_isGap first, Bool.and_false, Bool.false_or,
      ← isBreak_taken (isBare_of_isGap first), ← here.column_past c, ih gaps (here.past c)]
    rfl

theorem places_gap {gap : List Char} (gaps : ∀ c ∈ gap, isGap c = true) (here : Cursor) :
    (∀ p ∈ here.places gap, isBlank p.char = true ∨ isBreak p.char = true) ∧
      (here.places gap).map Place.char = gap.map taken := by
  induction gap generalizing here with
  | nil => exact ⟨nofun, rfl⟩
  | cons c gap ih =>
    obtain ⟨first, gaps⟩ := List.forall_mem_cons.1 gaps
    have bare := isBare_of_isGap first
    obtain ⟨each, chars⟩ := ih gaps (here.past c)
    have own : (here.place c).char = taken c := rfl
    rw [here.places_cons bare.ne_return, List.map_cons, chars]
    refine ⟨List.forall_mem_cons.2 ⟨?_, each⟩, rfl⟩
    rw [own, isBlank_taken bare, isBreak_taken bare]
    exact Bool.or_eq_true_iff.1 first

section Steps

variable (fuel : Nat) (here : Cursor) (rest : List Char)

theorem readFrom_quote :
    Quoted.readFrom '"' (fuel + 1) (here.places ('"' :: rest)) = some ([], (here.past '"').places rest) := by
  have bound := isBoundary_printed here rest []
  rw [printed, List.flatMap_nil, List.nil_append, places_quote] at bound
  rw [places_quote, readFrom_cons, bound]
  simp [startsBound, startsMarker, Cursor.place, taken, isBlank, isBreak]

theorem readFrom_gap {c : Char} {gap s : List Char} (gaps : ∀ d ∈ c :: gap, isGap d = true)
    (ends : s.head?.any isGap = false) :
    Quoted.readFrom '"' (fuel + 1) (here.places (printed (c :: gap ++ s) ++ '"' :: rest)) =
      (Quoted.readFrom '"' fuel ((here.after (c :: gap)).places (printed s ++ '"' :: rest))).map
        fun (more, rest) => (foldedGap (c :: gap) ++ more, rest) := by
  have bare := isBare_of_isGap (gaps c (by simp))
  have free : '\r' ∉ c :: gap := fun member => absurd (gaps _ member) (by decide)
  obtain ⟨each, chars⟩ := places_gap gaps here
  have split : here.places (printed (c :: gap ++ s) ++ '"' :: rest) =
      here.places (c :: gap) ++ (here.after (c :: gap)).places (printed s ++ '"' :: rest) := by
    rw [printed_append, printed_of_gaps gaps, List.append_assoc, here.places_append free]
  have bound : isBoundary (here.places (printed (c :: gap ++ s) ++ '"' :: rest)) = false := by
    rw [isBoundary_printed, List.cons_append, startsBound_of_isGap (gaps c (by simp)), Bool.and_false]
  obtain ⟨found, read, same⟩ := Gap.read_append each ((isSpaced_printed (here.after (c :: gap)) rest s).trans ends)
  rw [split] at bound ⊢
  rw [chars] at same
  rw [here.places_cons bare.ne_return, List.cons_append] at bound read ⊢
  rw [here.places_cons bare.ne_return, List.forall_mem_cons] at each
  rw [readFrom_cons, bound, if_neg Bool.false_ne_true, if_pos (Bool.or_eq_true_iff.2 each.1), read, Option.bind_some]
  simp only [same, foldedGap]

theorem readFrom_bare {c : Char} (bare : IsBare c) (other : isGap c = false) (s : List Char) :
    Quoted.readFrom '"' (fuel + 1) (here.places (printed (c :: s) ++ '"' :: rest)) =
      if here.column == 0 && startsBound (c :: s) then none
      else (Quoted.readFrom '"' fuel ((here.past c).places (printed s ++ '"' :: rest))).map
        fun (more, rest) => (c :: more, rest) := by
  obtain ⟨unblank, inline⟩ := Bool.or_eq_false_iff.1 other
  have own : (here.place c).char = c := taken_of_inline inline
  have white : (isBlank (here.place c).char || isBreak (here.place c).char) = false :=
    Bool.or_eq_false_iff.2 ⟨(isBlank_taken bare).trans unblank, (isBreak_taken bare).trans inline⟩
  have bound := isBoundary_printed here rest (c :: s)
  rw [places_bare here _ bare] at bound ⊢
  rw [readFrom_cons, bound, white, own, if_neg Bool.false_ne_true, if_neg bare.2.1, if_neg bare.2.2]

theorem readFrom_escaped {c : Char} {code : List Char} (notBare : ¬ IsBare c) (escaped : escape c = '\\' :: code)
    (escapes : Escapes code c) (s : List Char) :
    Quoted.readFrom '"' (fuel + 1) (here.places (printed (c :: s) ++ '"' :: rest)) =
      (Quoted.readFrom '"' fuel ((here.after (escape c)).places (printed s ++ '"' :: rest))).map
        fun (more, rest) => (c :: more, rest) := by
  have bound : isBoundary (here.places (printed (c :: s) ++ '"' :: rest)) = false := by
    rw [isBoundary_printed, startsBound_of_escaped notBare, Bool.and_false]
  have own : (here.place '\\').char = '\\' := rfl
  have white : (isBlank '\\' || isBreak '\\') = false := by decide
  have inline : startsWith isBreak ((here.past '\\').places (code ++ (printed s ++ '"' :: rest))) = false := by
    obtain ⟨d, more, rfl⟩ := List.exists_cons_of_ne_nil escapes.present
    rw [List.cons_append, Cursor.places_cons _ fun same => escapes.free (by simp [same])]
    exact escapes.unbroken d (by simp)
  rw [places_escaped here _ escaped] at bound ⊢
  rw [readFrom_cons, bound, own, white, if_neg Bool.false_ne_true, if_neg Bool.false_ne_true, if_neg (by decide),
    if_pos rfl, inline, if_neg Bool.false_ne_true, escapes.read, Option.bind_some, escaped]
  rfl

end Steps

theorem exists_gap (s : List Char) :
    ∃ gap rest, s = gap ++ rest ∧ (∀ c ∈ gap, isGap c = true) ∧ rest.head?.any isGap = false := by
  refine ⟨_, _, List.takeWhile_append_dropWhile.symm, fun c member => List.mem_takeWhile_imp member, ?_⟩
  have stop := List.head?_dropWhile_not isGap s
  cases found : (s.dropWhile isGap).head? with
  | none => rfl
  | some c => simpa [found] using stop

/-- A text that is printed between quotes is read up to the closing quote, if nothing in it looks like the bound
of a document. -/
theorem readFrom_printed {fuel : Nat} {s : List Char} (enough : s.length < fuel) (here : Cursor) (rest : List Char) :
    Quoted.readFrom '"' fuel (here.places (printed s ++ '"' :: rest)) =
      if isMarked (here.column == 0) s then none
      else some (folded s, (here.after (printed s ++ ['"'])).places rest) := by
  -- the fuel counts the gaps and the other characters
  induction fuel generalizing s here with
  | zero => cases enough
  | succ fuel ih =>
    cases s with
    | nil => exact readFrom_quote fuel here rest
    | cons c s =>
      have room : s.length < fuel := by simpa using enough
      rcases escape_cases c with bare | ⟨notBare, code, escaped, escapes⟩
      · cases gap : isGap c with
        | true =>
          obtain ⟨more, s, rfl, gaps, ends⟩ := exists_gap s
          have gaps : ∀ d ∈ c :: more, isGap d = true := List.forall_mem_cons.2 ⟨gap, gaps⟩
          have shorter : s.length < fuel := by
            rw [List.length_append] at room
            omega
          have behind : here.after (printed (c :: more ++ s) ++ ['"']) =
              (here.after (c :: more)).after (printed s ++ ['"']) := by
            rw [printed_append, printed_of_gaps gaps, List.append_assoc, here.after_append]
          rw [← List.cons_append, readFrom_gap fuel here rest gaps ends, ih shorter, isMarked_append gaps here,
            folded_append gaps ends, behind]
          split_ifs <;> rfl
        | false =>
          have behind : here.after (printed (c :: s) ++ ['"']) = (here.past c).after (printed s ++ ['"']) := by
            rw [printed_cons, escape_of_isBare bare]
            rfl
          rw [readFrom_bare fuel here rest bare gap, ih room, isMarked, here.column_past, isBreak_taken bare,
            folded_cons gap, behind]
          cases here.column == 0 && startsBound (c :: s) with
          | true => rfl
          | false =>
            rw [if_neg Bool.false_ne_true, Bool.false_or]
            split_ifs <;> rfl
      · have behind : here.after (printed (c :: s) ++ ['"']) =
            (here.after (escape c)).after (printed s ++ ['"']) := by
          rw [printed_cons, List.append_assoc, here.after_append]
        rw [readFrom_escaped fuel here rest notBare escaped escapes, ih room,
          isMarked_escaped notBare escaped escapes here, folded_cons (isGap_of_escaped notBare), behind]
        split_ifs <;> rfl

theorem return_not_mem_printed (s : List Char) : '\r' ∉ printed s := by
  rw [printed, List.mem_flatMap]
  rintro ⟨c, -, member⟩
  rcases escape_cases c with bare | ⟨-, code, escaped, escapes⟩
  · rw [escape_of_isBare bare, List.mem_singleton] at member
    exact bare.ne_return member.symm
  · rw [escaped] at member
    exact escapes.free ((List.mem_cons.1 member).resolve_left (by decide))

theorem length_le_printed (s : List Char) : s.length ≤ (printed s).length := by
  induction s with
  | nil => exact Nat.le_refl 0
  | cons c s ih =>
    have some : escape c ≠ [] := by
      rcases escape_cases c with bare | ⟨-, code, escaped, -⟩
      · simp [escape_of_isBare bare]
      · simp [escaped]
    have one := List.length_pos_iff.2 some
    rw [printed_cons, List.length_append, List.length_cons]
    omega

theorem read_printed (s : List Char) (here : Cursor) (rest : List Char) :
    Quoted.read '"' (here.places (printed s ++ '"' :: rest)) =
      if isMarked (here.column == 0) s then none
      else some (folded s, (here.after (printed s ++ ['"'])).places rest) := by
  refine readFrom_printed ?_ here rest
  rw [here.places_append (return_not_mem_printed s), List.length_append,
    here.length_places (return_not_mem_printed s)]
  have enough := length_le_printed s
  omega

end ClusterLifecycle.Yaml
