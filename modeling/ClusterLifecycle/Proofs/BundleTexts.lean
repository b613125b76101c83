import ClusterLifecycle.Proofs.DocumentLines
import Mathlib.Data.List.Basic

/-!
Documents and bundles of documents as texts. Cut at its separators, a bundle falls into the documents
it was made of, and what a document gives to a name is found by reading its lines.
-/

namespace ClusterLifecycle.Text

theorem lines_of_unbroken {line : List Char} (unbroken : '\n' ∉ line) (some : line ≠ []) :
    lines line = [line] := by
  induction line with
  | nil => exact absurd rfl some
  | cons c rest ih =>
    obtain ⟨other, unbroken⟩ := not_or.1 (mt List.mem_cons.2 unbroken)
    rw [lines, if_neg (Ne.symm other)]
    cases rest with
    | nil => rfl
    | cons d more => rw [ih unbroken (by simp)]

theorem lines_append_break {line : List Char} (unbroken : '\n' ∉ line) (rest : List Char) :
    lines (line ++ '\n' :: rest) = line :: lines rest := by
  induction line with
  | nil => rfl
  | cons c line ih =>
    obtain ⟨other, unbroken⟩ := not_or.1 (mt List.mem_cons.2 unbroken)
    rw [List.cons_append, lines, if_neg (Ne.symm other), ih unbroken]

end ClusterLifecycle.Text

namespace ClusterLifecycle.Manifest

open Text

def documentText (document : List (Line Content)) : List Char :=
  document.flatMap fun line => line.shown ++ ['\n']

theorem documentText_append (before after : List (Line Content)) :
    documentText (before ++ after) = documentText before ++ documentText after :=
  List.flatMap_append

theorem lines_documentText {document : List (Line Content)} (sound : ∀ line ∈ document, line.isSound)
    (rest : List Char) : lines (documentText document ++ rest) = document.map Line.shown ++ lines rest := by
  induction document with
  | nil => rfl
  | cons line document ih =>
    rw [documentText, List.flatMap_cons, List.append_assoc, List.append_assoc, List.singleton_append,
      lines_append_break (Line.printable_shown (sound line (by simp))).newline_not_mem,
      ← documentText, ih fun other member => sound other (by simp [member])]
    rfl

/-- A document of a bundle: entries only, and at least one. -/
def IsManifest (document : List (Line Content)) : Prop :=
  document ≠ [] ∧ ∀ line ∈ document, line.isSound ∧ line.isEntry

/-- A text that shows a document, with the last line break or without it. -/
def Shows (text : List Char) (document : List (Line Content)) : Prop :=
  text = documentText document ∨ text ++ ['\n'] = documentText document

section Manifest

variable {document : List (Line Content)} {text : List Char}

theorem IsManifest.isSound (manifest : IsManifest document) : ∀ line ∈ document, line.isSound :=
  fun line member => (manifest.2 line member).1

theorem IsManifest.exists_text (manifest : IsManifest document) :
    ∃ front last, documentText document = (documentText front ++ last) ++ ['\n'] ∧
      EndsVisibly last ∧ document.map Line.shown = front.map Line.shown ++ [last] ∧
      '\n' ∉ last ∧ ∀ line ∈ front, line.isSound := by
  have parts := List.dropLast_concat_getLast manifest.1
  have entry := manifest.2 _ (List.getLast_mem manifest.1)
  refine ⟨document.dropLast, (document.getLast manifest.1).shown, ?_,
    Line.endsVisibly_shown entry.1 entry.2, ?_, (Line.printable_shown entry.1).newline_not_mem,
    fun line member => manifest.isSound line (List.dropLast_subset _ member)⟩
  · rw [List.append_assoc]
    conv_lhs => rw [← parts, documentText_append]
    simp [documentText]
  · conv_lhs => rw [← parts, List.map_append]
    rfl

theorem Shows.lines_eq (shows : Shows text document) (manifest : IsManifest document) :
    lines text = document.map Line.shown := by
  obtain ⟨front, last, whole, ends, same, unbroken, sound⟩ := manifest.exists_text
  rcases shows with rfl | shows
  · simpa [lines] using lines_documentText manifest.isSound []
  · have cut : text = documentText front ++ last :=
      List.append_cancel_right (shows.trans whole)
    have visible : last ≠ [] := by
      obtain ⟨_, _, rfl, _⟩ := ends
      simp
    rw [cut, lines_documentText sound, lines_of_unbroken unbroken visible, same]

theorem Shows.trimEnd_eq (shows : Shows text document) (manifest : IsManifest document) :
    trimEnd text ++ ['\n'] = documentText document := by
  obtain ⟨front, last, whole, ends, -⟩ := manifest.exists_text
  have trimmed : trimEnd (documentText front ++ last) = documentText front ++ last :=
    (ends.append _).trimEnd_eq
  rcases shows with rfl | shows
  · rw [whole, trimEnd_break, trimmed]
  · have cut : text = documentText front ++ last :=
      List.append_cancel_right (shows.trans whole)
    rw [whole, cut, trimmed]

end Manifest

/-! ### Bundles -/

def separatorLine : List Char := ['-', '-', '-']

theorem Line.shown_ne_separator {line : Line Content} (sound : line.isSound) :
    line.shown ≠ separatorLine := by
  intro same
  have plain := isPlain_of_isSound sound
  rw [← read_shown sound, same] at plain
  exact absurd plain (by decide)

variable {documents : List (List (Line Content))} {texts : List (List Char)}

theorem lines_bundle (shows : List.Forall₂ Shows texts documents)
    (manifests : ∀ document ∈ documents, IsManifest document) :
    lines (bundle texts) = documents.flatMap fun document => separatorLine :: document.map Line.shown := by
  induction shows with
  | nil => rfl
  | @cons text document texts documents shows _ ih =>
    have manifest : IsManifest document := manifests document (by simp)
    have first : bundle (text :: texts) = separatorLine ++ '\n' :: (documentText document ++ bundle texts) := by
      rw [← shows.trimEnd_eq manifest]
      simp [bundle, separator, separatorLine]
    rw [first, lines_append_break (by decide), lines_documentText manifest.isSound,
      ih fun other member => manifests other (by simp [member])]
    rfl

theorem separatorLine_not_mem {document : List (Line Content)} (sound : ∀ line ∈ document, line.isSound) :
    separatorLine ∉ document.map Line.shown := by
  intro member
  obtain ⟨line, member, same⟩ := List.mem_map.1 member
  exact Line.shown_ne_separator (sound line member) same

/-- The lines of the documents in a text, of which the first is what comes before all separators. -/
def cut (text : List Char) : List (List (List Char)) :=
  (lines text).splitOn separatorLine

theorem splitOn_separators {α : Type} [BEq α] [LawfulBEq α] (separator : α) {parts : List (List α)}
    (free : ∀ part ∈ parts, separator ∉ part) :
    (parts.flatMap (separator :: ·)).splitOn separator = [] :: parts := by
  have joined : parts.flatMap (separator :: ·) = [separator].intercalate ([] :: parts) := by
    cases parts with
    | nil => rfl
    | cons part parts =>
      induction parts generalizing part with
      | nil => simp [List.intercalate]
      | cons next parts ih =>
        have := ih next fun other member => free other (by simp_all)
        simp_all [List.intercalate]
  rw [joined, List.splitOn_intercalate separator _ (by simp)]
  simpa using free

/-- Cut at the separators, a bundle falls into the documents it was made of. -/
theorem cut_bundle (shows : List.Forall₂ Shows texts documents)
    (manifests : ∀ document ∈ documents, IsManifest document) :
    cut (bundle texts) = [] :: documents.map (·.map Line.shown) := by
  have free : ∀ part ∈ documents.map (·.map Line.shown), separatorLine ∉ part := by
    intro part member
    obtain ⟨document, listed, rfl⟩ := List.mem_map.1 member
    exact separatorLine_not_mem (manifests document listed).isSound
  have parts := splitOn_separators separatorLine free
  rw [List.flatMap_map] at parts
  rw [cut, lines_bundle shows manifests, parts]

theorem count_bundle (shows : List.Forall₂ Shows texts documents)
    (manifests : ∀ document ∈ documents, IsManifest document) :
    (lines (bundle texts)).count separatorLine = documents.length := by
  rw [lines_bundle shows manifests]
  clear shows
  induction documents with
  | nil => rfl
  | cons document documents ih =>
    have free := List.count_eq_zero.2 (separatorLine_not_mem (manifests document (by simp)).isSound)
    rw [List.flatMap_cons, List.count_append, List.count_cons_self, free,
      ih fun other member => manifests other (by simp [member]), List.length_cons]
    omega

theorem map_lines_texts (shows : List.Forall₂ Shows texts documents)
    (manifests : ∀ document ∈ documents, IsManifest document) :
    texts.map lines = documents.map (·.map Line.shown) := by
  induction shows with
  | nil => rfl
  | @cons text document texts documents first _ ih =>
    rw [List.map_cons, List.map_cons, first.lines_eq (manifests document (by simp)),
      ih fun other member => manifests other (by simp [member])]

theorem printable_bundle (shows : List.Forall₂ Shows texts documents)
    (manifests : ∀ document ∈ documents, IsManifest document) :
    ∀ line ∈ lines (bundle texts), Printable line := by
  intro line member
  rw [lines_bundle shows manifests, List.mem_flatMap] at member
  obtain ⟨document, listed, member⟩ := member
  rcases List.mem_cons.1 member with rfl | member
  · decide
  · obtain ⟨given, within, rfl⟩ := List.mem_map.1 member
    exact Line.printable_shown ((manifests document listed).isSound given within)

/-! ### What documents say -/

namespace Line

variable {α : Type}

def kind? : Line (List Char) → Option (List Char)
  | .entry 0 false "kind" content => some (trim (given content))
  | _ => none

/-- The field of the kind is found where a line gives it, and nowhere inside of other lines. -/
theorem after?_kindField {line : Line (List Char)} (plain : line.isPlain) :
    (after? kindField line.write).map trim = line.kind? := by
  cases found : after? kindField line.write with
  | some rest =>
    have same : read (kindField ++ rest) = line := by
      rw [← eq_append_of_after? found, read_write plain]
    obtain ⟨content, rfl⟩ : ∃ content, line = .entry 0 false "kind" content := ⟨_, same.symm⟩
    have rest_eq : given content = rest := by
      have written : kindField ++ given content = kindField ++ rest := eq_append_of_after? found
      exact List.append_cancel_left written
    rw [kind?, rest_eq]
    rfl
  | none =>
    unfold kind?
    split
    · next content =>
      have written : write (.entry 0 false "kind" content) = kindField ++ given content := rfl
      rw [written, after?_append] at found
      cases found
    · rfl

end Line

theorem kinds_bundle (shows : List.Forall₂ Shows texts documents)
    (manifests : ∀ document ∈ documents, IsManifest document) :
    kinds (bundle texts) =
      documents.flatMap fun document => document.filterMap fun line => (line.map Content.shown).kind? := by
  rw [kinds, lines_bundle shows manifests, List.filterMap_flatMap]
  refine List.flatMap_congr fun document member => ?_
  have none : after? kindField separatorLine = none := by decide
  rw [List.filterMap_cons_none (by rw [none]; rfl), List.filterMap_map]
  refine List.filterMap_congr fun line listed => ?_
  exact Line.after?_kindField (Line.isPlain_of_isSound ((manifests document member).isSound line listed))

section Reading

variable {α β : Type}

def Line.isFor (column : Nat) (name : String) : Line α → Bool
  | .remark _ => false
  | .entry other _ found _ => other = column && found = name

/-- Whether a line belongs to a name in some column, where it follows it. -/
def Line.isInside (column : Nat) : Line α → Bool
  | .remark _ => true
  | .entry other _ _ _ => column < other

/-- What is given to a name in some column, and the lines that belong to it. -/
def found? (column : Nat) (name : String) (document : List (Line α)) :
    Option (Option α × List (Line α)) :=
  match document.dropWhile fun line => !line.isFor column name with
  | .entry _ _ _ content :: rest => some (content, rest.takeWhile (Line.isInside column))
  | _ => none

/-- What a document gives to the last of some names, each inside of the one before. -/
def field? (column : Nat) : List String → List (Line α) → Option α
  | [], _ => none
  | [name], document => do (← found? column name document).1
  | name :: path, document => do field? (column + 2) path (← found? column name document).2

/-- The lines that belong to the last of some names, each inside of the one before. -/
def inside (column : Nat) : List String → List (Line α) → List (Line α)
  | [], document => document
  | name :: path, document => inside (column + 2) path ((found? column name document).elim [] (·.2))

/-- The names up to the next item with what is given to them, and the items from there on. -/
def itemsFrom : List (Line α) → List (String × Option α) × List (List (String × Option α))
  | [] => ([], [])
  | .remark _ :: rest => itemsFrom rest
  | .entry _ first name content :: rest =>
    let (pending, items) := itemsFrom rest
    if first then ([], ((name, content) :: pending) :: items) else ((name, content) :: pending, items)

def items (path : List String) (document : List (Line α)) : List (List (String × Option α)) :=
  (itemsFrom (inside 0 path document)).2

theorem Line.isFor_map (f : α → β) (column : Nat) (name : String) (line : Line α) :
    (line.map f).isFor column name = line.isFor column name := by
  cases line <;> rfl

theorem Line.isInside_map (f : α → β) (column : Nat) (line : Line α) :
    (line.map f).isInside column = line.isInside column := by
  cases line <;> rfl

variable (f : α → β) (column : Nat) (name : String) (document : List (Line α))

theorem found?_map : found? column name (document.map (Line.map f)) =
    (found? column name document).map fun (content, rest) => (content.map f, rest.map (Line.map f)) := by
  unfold found?
  have named : (fun line => !Line.isFor column name line) ∘ Line.map f =
      fun line => !Line.isFor column name line :=
    funext fun line => congrArg not (Line.isFor_map f column name line)
  have within : Line.isInside column ∘ Line.map f = Line.isInside column :=
    funext (Line.isInside_map f column)
  rw [List.dropWhile_map, named]
  cases document.dropWhile fun line => !Line.isFor column name line with
  | nil => rfl
  | cons line rest =>
    cases line with
    | remark text => rfl
    | entry other first found content =>
      simp only [List.map_cons, Line.map, List.takeWhile_map, within, Option.map_some]

theorem field?_map (path : List String) :
    field? column path (document.map (Line.map f)) = (field? column path document).map f := by
  induction path generalizing column document with
  | nil => rfl
  | cons name path ih =>
    cases path with
    | nil =>
      simp only [field?, found?_map]
      cases found? column name document <;> rfl
    | cons next path =>
      simp only [field?, found?_map]
      cases found? column name document with
      | none => rfl
      | some found => exact ih (column + 2) found.2

theorem inside_map (path : List String) :
    inside column path (document.map (Line.map f)) = (inside column path document).map (Line.map f) := by
  induction path generalizing column document with
  | nil => rfl
  | cons name path ih =>
    rw [inside, inside, ← ih, found?_map]
    cases found? column name document <;> rfl

def itemMap (item : List (String × Option α)) : List (String × Option β) :=
  item.map fun (name, content) => (name, content.map f)

theorem itemsFrom_map : itemsFrom (document.map (Line.map f)) =
    (itemMap f (itemsFrom document).1, (itemsFrom document).2.map (itemMap f)) := by
  induction document with
  | nil => rfl
  | cons line document ih =>
    cases line with
    | remark text => exact ih
    | entry other first found content =>
      rw [List.map_cons, Line.map, itemsFrom, ih, itemsFrom]
      cases first <;> rfl

theorem items_map (path : List String) :
    items path (document.map (Line.map f)) = (items path document).map (itemMap f) := by
  rw [items, inside_map, itemsFrom_map, items]

def given? (item : List (String × Option α)) (name : String) : Option α :=
  (item.lookup name).join

theorem given?_itemMap (item : List (String × Option α)) :
    given? (itemMap f item) name = (given? item name).map f := by
  induction item with
  | nil => rfl
  | cons pair item ih =>
    obtain ⟨other, content⟩ := pair
    unfold given? at ih ⊢
    rw [itemMap, List.map_cons, List.lookup_cons, List.lookup_cons]
    cases name == other with
    | true => rfl
    | false => exact ih

end Reading

def outline (text : List Char) : List (Line (List Char)) :=
  (lines text).map Line.read

theorem map_read_shown {document : List (Line Content)} (sound : ∀ line ∈ document, line.isSound) :
    (document.map Line.shown).map Line.read = document.map (Line.map Content.shown) := by
  rw [List.map_map]
  exact List.map_congr_left fun line member => Line.read_shown (sound line member)

theorem outline_documentText {document : List (Line Content)} (sound : ∀ line ∈ document, line.isSound) :
    outline (documentText document) = document.map (Line.map Content.shown) := by
  have whole := lines_documentText sound []
  rw [List.append_nil, lines, List.append_nil] at whole
  rw [outline, whole, map_read_shown sound]

theorem Shows.outline_eq {text : List Char} {document : List (Line Content)} (shows : Shows text document)
    (manifest : IsManifest document) : outline text = document.map (Line.map Content.shown) := by
  rw [outline, shows.lines_eq manifest, map_read_shown manifest.isSound]

/-- What the first document of a kind in a text gives to the last of some names. -/
def bundled? (kind : String) (path : List String) (text : List Char) : Option (List Char) := do
  let document ← ((cut text).map (·.map Line.read)).find? fun document =>
    field? 0 ["kind"] document = some kind.toList
  field? 0 path document

def document? (kind : String) (text : List Char) : Option (List (Line (List Char))) :=
  ((cut text).map (·.map Line.read)).find? fun document => field? 0 ["kind"] document = some kind.toList

theorem document?_bundle (shows : List.Forall₂ Shows texts documents)
    (manifests : ∀ document ∈ documents, IsManifest document) (kind : String) :
    document? kind (bundle texts) =
      (documents.find? fun document => (field? 0 ["kind"] document).map Content.shown = some kind.toList).map
        (·.map (Line.map Content.shown)) := by
  have read : (documents.map (·.map Line.shown)).map (·.map Line.read) =
      documents.map (·.map (Line.map Content.shown)) := by
    rw [List.map_map]
    exact List.map_congr_left fun document member => map_read_shown (manifests document member).isSound
  rw [document?, cut_bundle shows manifests, List.map_cons, read, List.map_nil,
    List.find?_cons_of_neg (by simp [field?, found?]), List.find?_map]
  simp only [Function.comp_def, field?_map]

theorem bundled?_bundle (shows : List.Forall₂ Shows texts documents)
    (manifests : ∀ document ∈ documents, IsManifest document) (kind : String) (path : List String) :
    bundled? kind path (bundle texts) =
      (documents.find? fun document => (field? 0 ["kind"] document).map Content.shown = some kind.toList).bind
        fun document => (field? 0 path document).map Content.shown := by
  have found : bundled? kind path (bundle texts) = (document? kind (bundle texts)).bind (field? 0 path) := rfl
  rw [found, document?_bundle shows manifests, Option.bind_map]
  simp only [Function.comp_def, field?_map]

end ClusterLifecycle.Manifest
