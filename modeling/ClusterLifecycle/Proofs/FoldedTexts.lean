import ClusterLifecycle.Proofs.QuotedScalars
import Mathlib.Data.List.Chain

/-!
Which texts are the same after they have been printed as JSON strings and read as YAML scalars.
-/

namespace ClusterLifecycle.Yaml

open Json (escape)

/-- The separators of lines and of paragraphs, which stand for themselves in JSON and end a line in YAML. -/
def isSeparator (c : Char) : Bool :=
  c == '\u2028' || c == '\u2029'

/-- Neighbours that are both read: no space next to a separator. -/
def Apart (c d : Char) : Prop :=
  ¬ (c = ' ' ∧ isSeparator d = true) ∧ ¬ (isSeparator c = true ∧ d = ' ')

/-- What makes a text legible as a scalar in double quotes. -/
structure Legible (s : List Char) : Prop where
  /-- Control characters are escaped; everything else has to be a character that a text may hold. -/
  allowed : ∀ c ∈ s, 0x20 ≤ c.toNat → isAllowed c = true
  /-- A next-line character would be taken for a line feed. -/
  inline : '\u0085' ∉ s
  apart : s.IsChain Apart
  /-- No line starts as the bound of a document does. -/
  unbounded : ∀ b mark d, isSeparator b = true → mark = '-' ∨ mark = '.' → d = ' ' ∨ isSeparator d = true →
    ¬ [b, mark, mark, mark, d] <:+: s

/-! ### Characters -/

theorem allowed_escape_iff {c : Char} :
    (∀ d ∈ escape c, isAllowed d = true) ↔ (0x20 ≤ c.toNat → isAllowed c = true) := by
  rcases escape_cases c with bare | ⟨notBare, code, escaped, escapes⟩
  · rw [escape_of_isBare bare, List.forall_mem_singleton]
    exact ⟨fun allowed _ => allowed, fun allowed => allowed bare.1⟩
  · rw [escaped, List.forall_mem_cons]
    have backslash : isAllowed '\\' = true := rfl
    have quote : isAllowed '"' = true := rfl
    refine iff_of_true ⟨backslash, fun d member => (escapes.visible d member).allowed⟩ fun visible => ?_
    by_contra forbidden
    refine notBare ⟨visible, ?_, ?_⟩
    · rintro rfl
      exact forbidden quote
    · rintro rfl
      exact forbidden backslash

theorem allowed_printed_iff {s : List Char} :
    (∀ d ∈ printed s, isAllowed d = true) ↔ ∀ c ∈ s, 0x20 ≤ c.toNat → isAllowed c = true := by
  simp only [← allowed_escape_iff, printed, List.mem_flatMap]
  constructor
  · intro allowed c member d printed
    exact allowed d ⟨c, member, printed⟩
  · rintro allowed d ⟨c, member, printed⟩
    exact allowed c member d printed

/-! ### Bounds -/

theorem startsMarker_iff {mark : Char} {s : List Char} :
    startsMarker mark s = true ↔ ∃ d rest, isGap d = true ∧ s = mark :: mark :: mark :: d :: rest := by
  unfold startsMarker
  split
  next a b c d rest =>
    constructor
    · intro found
      simp only [Bool.and_eq_true, beq_iff_eq] at found
      obtain ⟨⟨⟨rfl, rfl⟩, rfl⟩, gap⟩ := found
      exact ⟨d, rest, gap, rfl⟩
    · rintro ⟨e, more, gap, same⟩
      cases same
      simpa using gap
  next short =>
    refine iff_of_false Bool.false_ne_true ?_
    rintro ⟨d, rest, -, rfl⟩
    exact short _ _ _ _ _ rfl

theorem startsBound_iff {s : List Char} : startsBound s = true ↔
    ∃ mark d rest, (mark = '-' ∨ mark = '.') ∧ isGap d = true ∧ s = mark :: mark :: mark :: d :: rest := by
  rw [startsBound, Bool.or_eq_true, startsMarker_iff, startsMarker_iff]
  constructor
  · rintro (⟨d, rest, gap, same⟩ | ⟨d, rest, gap, same⟩)
    · exact ⟨_, d, rest, .inl rfl, gap, same⟩
    · exact ⟨_, d, rest, .inr rfl, gap, same⟩
  · rintro ⟨mark, d, rest, rfl | rfl, gap, same⟩
    · exact .inl ⟨d, rest, gap, same⟩
    · exact .inr ⟨d, rest, gap, same⟩

theorem isMarked_iff {fresh : Bool} {s : List Char} : isMarked fresh s = true ↔
    (fresh = true ∧ startsBound s = true) ∨
      ∃ before b rest, s = before ++ b :: rest ∧ separatesLines b = true ∧ startsBound rest = true := by
  induction s generalizing fresh with
  | nil => simp [isMarked, startsBound, startsMarker]
  | cons c s ih =>
    rw [isMarked, Bool.or_eq_true, Bool.and_eq_true, ih]
    refine or_congr_right ?_
    constructor
    · rintro (⟨separates, starts⟩ | ⟨before, b, rest, rfl, separates, starts⟩)
      · exact ⟨[], c, s, rfl, separates, starts⟩
      · exact ⟨c :: before, b, rest, rfl, separates, starts⟩
    · rintro ⟨before, b, rest, same, separates, starts⟩
      cases before with
      | nil =>
        obtain ⟨rfl, rfl⟩ := List.cons.inj same
        exact .inl ⟨separates, starts⟩
      | cons d before =>
        obtain ⟨rfl, rfl⟩ := List.cons.inj same
        exact .inr ⟨before, b, rest, rfl, separates, starts⟩

theorem separatesLines_iff {c : Char} (inline : c ≠ '\u0085') : separatesLines c = isSeparator c := by
  rw [separatesLines, isSeparator, beq_false_of_ne inline, Bool.false_or]

theorem isGap_iff {c : Char} (inline : c ≠ '\u0085') : isGap c = true ↔ c = ' ' ∨ isSeparator c = true := by
  rw [isGap, separatesLines_iff inline, Bool.or_eq_true, beq_iff_eq]

theorem unmarked_iff {s : List Char} (inline : '\u0085' ∉ s) : isMarked false s = false ↔
    ∀ b mark d, isSeparator b = true → mark = '-' ∨ mark = '.' → d = ' ' ∨ isSeparator d = true →
      ¬ [b, mark, mark, mark, d] <:+: s := by
  rw [← Bool.not_eq_true, isMarked_iff]
  constructor
  · rintro unmarked b mark d separator known gap ⟨before, rest, rfl⟩
    have own : b ≠ '\u0085' := fun same => inline (by simp [same])
    have last : d ≠ '\u0085' := fun same => inline (by simp [same])
    refine unmarked (.inr ⟨before, b, mark :: mark :: mark :: d :: rest, by simp, ?_, ?_⟩)
    · rwa [separatesLines_iff own]
    · exact startsBound_iff.2 ⟨mark, d, rest, known, (isGap_iff last).2 gap, rfl⟩
  · rintro unbounded (⟨never, -⟩ | ⟨before, b, rest, rfl, separates, starts⟩)
    · cases never
    obtain ⟨mark, d, rest, known, gap, rfl⟩ := startsBound_iff.1 starts
    have own : b ≠ '\u0085' := fun same => inline (by simp [same])
    have last : d ≠ '\u0085' := fun same => inline (by simp [same])
    rw [separatesLines_iff own] at separates
    exact unbounded b mark d separates known ((isGap_iff last).1 gap) ⟨before, rest, by simp⟩

/-! ### Gaps -/

def breaksOf (gap : List Char) : List Char :=
  (gap.map taken).filter isBreak

theorem length_breaksOf (gap : List Char) : (breaksOf gap).length ≤ gap.length :=
  (List.length_filter_le _ _).trans_eq (List.length_map _)

theorem foldedGap_cases (gap : List Char) :
    breaksOf gap = [] ∧ foldedGap gap = gap.map taken ∨ breaksOf gap = ['\n'] ∧ foldedGap gap = [' '] ∨
      breaksOf gap = '\n' :: foldedGap gap ∨ breaksOf gap ≠ [] ∧ foldedGap gap = breaksOf gap := by
  have same : foldedGap gap = (Gap.mk (gap.map taken) (breaksOf gap)).folded := rfl
  rw [same, Gap.folded]
  split <;> simp_all

theorem length_foldedGap (gap : List Char) : (foldedGap gap).length ≤ gap.length := by
  have fewer := length_breaksOf gap
  rcases foldedGap_cases gap with ⟨-, same⟩ | ⟨one, same⟩ | more | ⟨-, same⟩
  · rw [same, List.length_map]
  · rw [one] at fewer
    rw [same]
    exact fewer
  · rw [more, List.length_cons] at fewer
    omega
  · rwa [same]

theorem foldedGap_of_spaces {gap : List Char} (spaces : ∀ c ∈ gap, c = ' ') : foldedGap gap = gap := by
  obtain ⟨n, rfl⟩ : ∃ n, gap = List.replicate n ' ' := ⟨_, List.eq_replicate_of_mem spaces⟩
  have none : breaksOf (List.replicate n ' ') = [] := by
    rw [breaksOf, List.map_replicate, List.filter_replicate]
    rfl
  rcases foldedGap_cases (List.replicate n ' ') with ⟨-, same⟩ | ⟨one, -⟩ | more | ⟨some, -⟩
  · rw [same, List.map_replicate]
    rfl
  · rw [none] at one
    cases one
  · rw [none] at more
    cases more
  · exact absurd none some

theorem taken_separator {c : Char} (separator : isSeparator c = true) : taken c = c ∧ isBreak c = true ∧ c ≠ '\n' := by
  simp only [isSeparator, Bool.or_eq_true, beq_iff_eq] at separator
  rcases separator with rfl | rfl <;> decide

theorem foldedGap_of_separators {gap : List Char} (separators : ∀ c ∈ gap, isSeparator c = true) :
    foldedGap gap = gap := by
  have own : gap.map taken = gap := by
    conv_rhs => rw [← List.map_id gap]
    exact List.map_congr_left fun c member => (taken_separator (separators c member)).1
  have all : breaksOf gap = gap := by
    rw [breaksOf, own, List.filter_eq_self]
    exact fun c member => (taken_separator (separators c member)).2.1
  have first : ∀ more, gap ≠ '\n' :: more := by
    rintro more rfl
    exact (taken_separator (separators '\n' (by simp))).2.2 rfl
  rcases foldedGap_cases gap with ⟨-, same⟩ | ⟨one, -⟩ | more | ⟨-, same⟩
  · rw [same, own]
  · exact absurd (all.symm.trans one) (first _)
  · exact absurd (all.symm.trans more) (first _)
  · rw [same, all]

theorem foldedGap_eq_self_iff {gap : List Char} (gaps : ∀ c ∈ gap, isGap c = true) :
    foldedGap gap = gap ↔ (∀ c ∈ gap, c = ' ') ∨ ∀ c ∈ gap, isSeparator c = true := by
  constructor
  · intro unchanged
    have fewer := length_breaksOf gap
    rcases foldedGap_cases gap with ⟨none, -⟩ | ⟨one, same⟩ | more | ⟨-, same⟩
    · refine .inl fun c member => ?_
      have unbroken := List.filter_eq_nil_iff.1 none (taken c) (List.mem_map_of_mem member)
      have space : separatesLines c = false := by
        rwa [isBreak_taken (isBare_of_isGap (gaps c member)), Bool.not_eq_true] at unbroken
      have either := gaps c member
      rwa [isGap, space, Bool.or_false, beq_iff_eq] at either
    · rw [← unchanged, same] at one
      cases one
    · rw [more, unchanged, List.length_cons] at fewer
      omega
    · refine .inr fun c listed => ?_
      have member := listed
      rw [← unchanged, same] at member
      have broken : isBreak c = true := List.of_mem_filter member
      have feed : c ≠ '\n' := by
        rintro rfl
        exact absurd (gaps _ listed) (by decide)
      rwa [isBreak, beq_false_of_ne feed, Bool.false_or] at broken
  · rintro (spaces | separators)
    · exact foldedGap_of_spaces spaces
    · exact foldedGap_of_separators separators

/-! ### Texts -/

/-- Texts character by character, but with each gap as a whole. -/
theorem gap_induction {motive : List Char → Prop} (nil : motive [])
    (other : ∀ c s, isGap c = false → motive s → motive (c :: s))
    (gap : ∀ gap s, (∀ c ∈ gap, isGap c = true) → s.head?.any isGap = false → motive s → motive (gap ++ s))
    (s : List Char) : motive s := by
  induction length : s.length using Nat.strong_induction_on generalizing s with
  | h n ih =>
    cases s with
    | nil => exact nil
    | cons c s =>
      cases first : isGap c with
      | false => exact other c s first (ih s.length (by simp [← length]) s rfl)
      | true =>
        obtain ⟨more, rest, rfl, gaps, ends⟩ := exists_gap s
        refine gap (c :: more) rest (List.forall_mem_cons.2 ⟨first, gaps⟩) ends (ih rest.length ?_ rest rfl)
        simp only [← length, List.length_cons, List.length_append]
        omega

theorem length_folded (s : List Char) : (folded s).length ≤ s.length := by
  induction s using gap_induction with
  | nil => exact Nat.le_refl 0
  | other c s other ih =>
    rw [folded_cons other]
    exact Nat.succ_le_succ ih
  | gap gap s gaps ends ih =>
    rw [folded_append gaps ends, List.length_append, List.length_append]
    exact Nat.add_le_add (length_foldedGap gap) ih

theorem apart_of_other {c d : Char} (other : isGap c = false ∨ isGap d = false) : Apart c d := by
  have space : isGap ' ' = true := by decide
  have separator : ∀ e, isSeparator e = true → isGap e = true := by
    intro e found
    simp only [isSeparator, Bool.or_eq_true, beq_iff_eq] at found
    rcases found with rfl | rfl <;> decide
  constructor
  · rintro ⟨rfl, ends⟩
    rcases other with other | other
    · rw [space] at other
      cases other
    · rw [separator d ends] at other
      cases other
  · rintro ⟨ends, rfl⟩
    rcases other with other | other
    · rw [separator c ends] at other
      cases other
    · rw [space] at other
      cases other

theorem apart_of_gaps {c d : Char} (first : c = ' ' ∨ isSeparator c = true) (second : d = ' ' ∨ isSeparator d = true) :
    Apart c d ↔ (c = ' ' ↔ d = ' ') := by
  have space : isSeparator ' ' = false := by decide
  rcases first with rfl | first
  · rcases second with rfl | second
    · simp [Apart, space]
    · have other : d ≠ ' ' := by
        rintro rfl
        exact absurd second (by decide)
      simp [Apart, second, other]
  · have other : c ≠ ' ' := by
      rintro rfl
      exact absurd first (by decide)
    simp [Apart, first, other]

theorem alike_of_chain {c : Char} {gap : List Char} (gaps : ∀ d ∈ c :: gap, d = ' ' ∨ isSeparator d = true)
    (chain : (c :: gap).IsChain Apart) : ∀ d ∈ c :: gap, c = ' ' ↔ d = ' ' := by
  induction gap generalizing c with
  | nil => simp
  | cons e gap ih =>
    obtain ⟨first, gaps⟩ := List.forall_mem_cons.1 gaps
    obtain ⟨apart, chain⟩ := List.isChain_cons_cons.1 chain
    have alike : c = ' ' ↔ e = ' ' := (apart_of_gaps first (gaps e (by simp))).1 apart
    refine List.forall_mem_cons.2 ⟨Iff.rfl, fun d member => alike.trans (ih gaps chain d member)⟩

theorem gap_chain_iff {gap : List Char} (gaps : ∀ c ∈ gap, isGap c = true) :
    '\u0085' ∉ gap ∧ gap.IsChain Apart ↔ (∀ c ∈ gap, c = ' ') ∨ ∀ c ∈ gap, isSeparator c = true := by
  constructor
  · rintro ⟨inline, chain⟩
    have either : ∀ c ∈ gap, c = ' ' ∨ isSeparator c = true := fun c member =>
      (isGap_iff fun next => inline (next ▸ member)).1 (gaps c member)
    cases gap with
    | nil => exact .inl nofun
    | cons c gap =>
      have alike := alike_of_chain either chain
      by_cases space : c = ' '
      · exact .inl fun d member => (alike d member).1 space
      · exact .inr fun d member => (either d member).resolve_left (mt (alike d member).2 space)
  · intro uniform
    have either : ∀ c ∈ gap, c = ' ' ∨ isSeparator c = true := fun c member =>
      uniform.imp (· c member) (· c member)
    have alike : ∀ c ∈ gap, ∀ d ∈ gap, c = ' ' ↔ d = ' ' := by
      rcases uniform with spaces | separators
      · exact fun c first d second => iff_of_true (spaces c first) (spaces d second)
      · have other : ∀ e ∈ gap, e ≠ ' ' := by
          rintro e member rfl
          exact absurd (separators ' ' member) (by decide)
        exact fun c first d second => iff_of_false (other c first) (other d second)
    refine ⟨fun member => absurd (either _ member) (by decide), ?_⟩
    rw [List.isChain_iff_forall_rel_of_append_cons_cons]
    rintro c d before rest rfl
    exact (apart_of_gaps (either c (by simp)) (either d (by simp))).2 (alike c (by simp) d (by simp))

/-- A text stays as it is if it holds no next-line character, and no space next to a separator. -/
theorem folded_eq_self_iff {s : List Char} : folded s = s ↔ '\u0085' ∉ s ∧ s.IsChain Apart := by
  induction s using gap_induction with
  | nil => simp [folded, foldedFrom, foldedGap_nil]
  | other c s other ih =>
    have own : '\u0085' ≠ c := by
      rintro rfl
      exact absurd other (by decide)
    rw [folded_cons other, List.cons_inj_right, ih, List.mem_cons, not_or, List.isChain_cons]
    simp only [own, not_false_eq_true, true_and, apart_of_other (.inl other), implies_true]
  | gap gap s gaps ends ih =>
    have apart : ∀ c ∈ gap.getLast?, ∀ d ∈ s.head?, Apart c d := by
      intro c _ d first
      rw [Option.mem_def.1 first] at ends
      exact apart_of_other (.inr ends)
    have within : folded (gap ++ s) = gap ++ s ↔ foldedGap gap = gap ∧ folded s = s := by
      rw [folded_append gaps ends]
      constructor
      · intro same
        -- neither part has grown, so none has lost anything
        have lengths := congrArg List.length same
        rw [List.length_append, List.length_append] at lengths
        have first := length_foldedGap gap
        have second := length_folded s
        exact List.append_inj same (by omega)
      · rintro ⟨same, more⟩
        rw [same, more]
    rw [within, foldedGap_eq_self_iff gaps, ← gap_chain_iff gaps, ih, List.mem_append, not_or, List.isChain_append]
    constructor
    · rintro ⟨⟨before, chain⟩, behind, more⟩
      exact ⟨⟨before, behind⟩, chain, more, apart⟩
    · rintro ⟨⟨before, behind⟩, chain, more, -⟩
      exact ⟨⟨before, chain⟩, behind, more⟩

theorem unmarked_of_single {s : List Char} (single : ∀ c ∈ s, separatesLines c = false) : isMarked false s = false := by
  rw [← Bool.not_eq_true, isMarked_iff]
  rintro (⟨never, -⟩ | ⟨before, b, rest, rfl, separates, -⟩)
  · cases never
  · rw [single b (by simp)] at separates
    cases separates

theorem folded_of_single {s : List Char} (single : ∀ c ∈ s, separatesLines c = false) : folded s = s := by
  refine folded_eq_self_iff.2 ⟨fun next => absurd (single _ next) (by decide), ?_⟩
  rw [List.isChain_iff_forall_rel_of_append_cons_cons]
  rintro c d before rest rfl
  have inline : ∀ e, separatesLines e = false → isSeparator e = false := by
    intro e alone
    rw [separatesLines, Bool.or_assoc, Bool.or_eq_false_iff] at alone
    exact alone.2
  have first := inline c (single c (by simp))
  have second := inline d (single d (by simp))
  simp [Apart, first, second]

/-- The legible texts are those that are printed in allowed characters only, and then read as they were. -/
theorem legible_iff {s : List Char} :
    Legible s ↔ (∀ c ∈ printed s, isAllowed c = true) ∧ isMarked false s = false ∧ folded s = s := by
  rw [allowed_printed_iff, folded_eq_self_iff]
  constructor
  · rintro ⟨allowed, inline, apart, unbounded⟩
    exact ⟨allowed, (unmarked_iff inline).2 unbounded, inline, apart⟩
  · rintro ⟨allowed, unmarked, inline, apart⟩
    exact ⟨allowed, inline, apart, (unmarked_iff inline).1 unmarked⟩

end ClusterLifecycle.Yaml
