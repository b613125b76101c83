import ClusterLifecycle.Json.Printer
import ClusterLifecycle.Proofs.JsonToken
import ClusterLifecycle.Yaml.Scalar

/-!
Where the characters of a text stand, and how single characters are printed in JSON and read as YAML: as they are, or
as escapes that mean the same in both.
-/

namespace ClusterLifecycle.Yaml

open Json (escape)

/-! ### Places -/

/-- Where a text goes on: how many bytes stand before, and the line and the column. -/
structure Cursor where
  index : Nat
  line : Nat
  column : Nat

def taken (c : Char) : Char :=
  if c = '\u0085' then '\n' else c

namespace Cursor

def places (here : Cursor) (text : List Char) : List Place :=
  Place.ofChars here.index here.line here.column text

def place (here : Cursor) (c : Char) : Place :=
  ⟨taken c, here.index, here.line, here.column⟩

def past (here : Cursor) (c : Char) : Cursor :=
  if isBreak (taken c) then ⟨here.index + c.utf8Size, here.line + 1, 0⟩
  else ⟨here.index + c.utf8Size, here.line, here.column + 1⟩

def after (here : Cursor) (text : List Char) : Cursor :=
  text.foldl past here

variable (here : Cursor)

theorem places_cons {c : Char} (other : c ≠ '\r') (rest : List Char) :
    here.places (c :: rest) = here.place c :: (here.past c).places rest := by
  have same : (if c = '\r' ∨ c = '\u0085' then '\n' else c) = taken c := by simp [taken, other]
  rw [places, Place.ofChars]
  · simp only [same]
    unfold past
    split_ifs <;> rfl
  · intro more same
    exact absurd same other

theorem places_append {first : List Char} (free : '\r' ∉ first) (rest : List Char) :
    here.places (first ++ rest) = here.places first ++ (here.after first).places rest := by
  induction first generalizing here with
  | nil => rfl
  | cons c first ih =>
    obtain ⟨other, free⟩ := not_or.1 (mt List.mem_cons.2 free)
    rw [List.cons_append, places_cons here (Ne.symm other), places_cons here (Ne.symm other), ih _ free]
    rfl

theorem length_places {text : List Char} (free : '\r' ∉ text) : (here.places text).length = text.length := by
  induction text generalizing here with
  | nil => rfl
  | cons c text ih =>
    obtain ⟨other, free⟩ := not_or.1 (mt List.mem_cons.2 free)
    rw [places_cons here (Ne.symm other), List.length_cons, ih _ free, List.length_cons]

theorem after_append (first rest : List Char) : here.after (first ++ rest) = (here.after first).after rest :=
  List.foldl_append

theorem column_past (c : Char) : ((here.past c).column == 0) = isBreak (taken c) := by
  unfold past
  split_ifs with ends <;> simp [ends]

theorem column_after {text : List Char} (some : text ≠ []) (unbroken : ∀ c ∈ text, isBreak (taken c) = false) :
    ((here.after text).column == 0) = false := by
  rw [← List.dropLast_concat_getLast some, after_append]
  exact ((here.after text.dropLast).column_past _).trans (unbroken _ (List.getLast_mem some))

end Cursor

/-! ### Visible characters -/

def IsVisible (c : Char) : Prop :=
  0x20 < c.toNat ∧ c.toNat < 0x7F

instance : DecidablePred IsVisible :=
  fun c => inferInstanceAs (Decidable (0x20 < c.toNat ∧ c.toNat < 0x7F))

namespace IsVisible

variable {c d : Char}

theorem ne (visible : IsVisible c) (other : ¬ IsVisible d) : c ≠ d := by
  rintro rfl
  exact other visible

theorem taken (visible : IsVisible c) : taken c = c :=
  if_neg (visible.ne (by decide))

theorem unbroken (visible : IsVisible c) : isBreak c = false := by
  simp [isBreak, visible.ne (d := '\n') (by decide), visible.ne (d := '\u2028') (by decide),
    visible.ne (d := '\u2029') (by decide)]

theorem unblank (visible : IsVisible c) : isBlank c = false := by
  simp [isBlank, visible.ne (d := ' ') (by decide), visible.ne (d := '\t') (by decide)]

theorem allowed (visible : IsVisible c) : isAllowed c = true := by
  have least := Nat.le_of_lt visible.1
  have greatest := Nat.le_of_lt_succ visible.2
  simp [isAllowed, least, greatest]

end IsVisible

/-! ### Escapes -/

def IsBare (c : Char) : Prop :=
  0x20 ≤ c.toNat ∧ c ≠ '"' ∧ c ≠ '\\'

theorem escape_of_isBare {c : Char} (bare : IsBare c) : escape c = [c] := by
  obtain ⟨visible, quote, backslash⟩ := bare
  have other : ∀ d : Char, d.toNat < 0x20 → c ≠ d := by
    intro d low same
    subst same
    omega
  rw [escape, if_neg quote, if_neg backslash, if_neg (other _ (by decide)), if_neg (other _ (by decide)),
    if_neg (other _ (by decide)), if_neg (other _ (by decide)), if_neg (other _ (by decide)), if_neg (by omega)]

/-- What stands behind the backslash of an escape, and what it is read as. -/
structure Escapes (code : List Char) (c : Char) : Prop where
  present : code ≠ []
  visible : ∀ d ∈ code, IsVisible d
  read : ∀ (here : Cursor) (rest : List Char),
    Quoted.escape (here.places (code ++ rest)) = some (c, (here.after code).places rest)

theorem Escapes.free {code : List Char} {c : Char} (escapes : Escapes code c) : '\r' ∉ code :=
  fun member => absurd (escapes.visible _ member) (by decide)

theorem Escapes.unbroken {code : List Char} {c : Char} (escapes : Escapes code c) :
    ∀ d ∈ code, isBreak (taken d) = false := by
  intro d member
  have visible := escapes.visible d member
  rw [visible.taken, visible.unbroken]

theorem escapes_letter {e c : Char} (visible : IsVisible e) (letter : Quoted.width? e = none)
    (known : Quoted.escapes.lookup e = some c) : Escapes [e] c where
  present := List.cons_ne_nil _ _
  visible := by simpa using visible
  read here rest := by
    rw [List.singleton_append, here.places_cons (visible.ne (by decide)), Quoted.escape]
    simp only [Cursor.place, visible.taken, letter, known, Option.map_some]
    rfl

theorem escape_unit {u a b c d : Place} {n : Nat} (mark : u.char = 'u')
    (value : Text.natural? 16 [a.char, b.char, c.char, d.char] = some n) (plain : n < 0xD800) (rest : List Place) :
    Quoted.escape (u :: a :: b :: c :: d :: rest) = some (Char.ofNat n, rest) := by
  have width : Quoted.width? u.char = some 4 := by rw [mark]; rfl
  have char : Quoted.char? n = some (Char.ofNat n) := if_pos (by omega)
  rw [Quoted.escape]
  simp [width, value, char]

theorem visible_hexDigit : ∀ n < 0x10, IsVisible (Text.hexDigit n) := by
  decide

theorem escapes_control {n : Nat} (control : n < 0x20) :
    Escapes ['u', '0', '0', Text.hexDigit (n / 16), Text.hexDigit (n % 16)] (Char.ofNat n) := by
  have first := visible_hexDigit (n / 16) (by omega)
  have second := visible_hexDigit (n % 16) (by omega)
  refine ⟨List.cons_ne_nil _ _, ?_, fun here rest => ?_⟩
  · have letters : IsVisible 'u' ∧ IsVisible '0' := by decide
    simp [letters, first, second]
  · simp only [List.cons_append, List.nil_append]
    rw [here.places_cons (by decide), Cursor.places_cons _ (by decide), Cursor.places_cons _ (by decide),
      Cursor.places_cons _ (first.ne (by decide)), Cursor.places_cons _ (second.ne (by decide))]
    refine escape_unit rfl ?_ (by omega) _
    simp only [Cursor.place, first.taken, second.taken]
    exact Json.natural?_controlDigits n control

theorem escape_cases (c : Char) : IsBare c ∨ ¬ IsBare c ∧ ∃ code, escape c = '\\' :: code ∧ Escapes code c := by
  by_cases bare : IsBare c
  · exact .inl bare
  refine .inr ⟨bare, ?_⟩
  unfold escape
  split_ifs with quote backslash backspace feed newline carriage tab control
  · subst quote
    exact ⟨_, rfl, escapes_letter (by decide) rfl rfl⟩
  · subst backslash
    exact ⟨_, rfl, escapes_letter (by decide) rfl rfl⟩
  · subst backspace
    exact ⟨_, rfl, escapes_letter (by decide) rfl rfl⟩
  · subst feed
    exact ⟨_, rfl, escapes_letter (by decide) rfl rfl⟩
  · subst newline
    exact ⟨_, rfl, escapes_letter (by decide) rfl rfl⟩
  · subst carriage
    exact ⟨_, rfl, escapes_letter (by decide) rfl rfl⟩
  · subst tab
    exact ⟨_, rfl, escapes_letter (by decide) rfl rfl⟩
  · exact ⟨_, rfl, by simpa using escapes_control control⟩
  · exact absurd ⟨by omega, quote, backslash⟩ bare

end ClusterLifecycle.Yaml
