/-!
Blanks, trimming and lines of a text given as a list of characters. A line ends at a line feed, and
a last line without one still counts.
-/

namespace ClusterLifecycle.Text

/-- The characters of the Unicode property `White_Space`. -/
def isBlank (c : Char) : Bool :=
  let n := c.toNat
  (9 ≤ n && n ≤ 13) || n == 32 || n == 0x85 || n == 0xA0 || n == 0x1680 ||
    (0x2000 ≤ n && n ≤ 0x200A) || n == 0x2028 || n == 0x2029 || n == 0x202F || n == 0x205F ||
    n == 0x3000

def trimStart (text : List Char) : List Char :=
  text.dropWhile isBlank

def trimEnd (text : List Char) : List Char :=
  (text.reverse.dropWhile isBlank).reverse

def trim (text : List Char) : List Char :=
  trimEnd (trimStart text)

def lines : List Char → List (List Char)
  | [] => []
  | c :: rest =>
    if c = '\n' then [] :: lines rest
    else match lines rest with
      | [] => [[c]]
      | line :: more => (c :: line) :: more

def after? : List Char → List Char → Option (List Char)
  | [], text => some text
  | _ :: _, [] => none
  | p :: beginning, c :: text => if p = c then after? beginning text else none

def occursIn (piece : List Char) : List Char → Bool
  | [] => piece.isEmpty
  | c :: rest => (after? piece (c :: rest)).isSome || occursIn piece rest

theorem after?_append (beginning rest : List Char) : after? beginning (beginning ++ rest) = some rest := by
  induction beginning with
  | nil => rfl
  | cons c beginning ih => simp [after?, ih]

theorem eq_append_of_after? {beginning text rest : List Char} (found : after? beginning text = some rest) :
    text = beginning ++ rest := by
  induction beginning generalizing text with
  | nil => simpa [after?] using found
  | cons p beginning ih =>
    cases text with
    | nil => simp [after?] at found
    | cons c text =>
      by_cases same : p = c
      · simp only [after?, same, if_true] at found
        rw [ih found, same]; rfl
      · simp [after?, same] at found

theorem isSome_after?_iff {beginning text : List Char} :
    (after? beginning text).isSome = true ↔ beginning <+: text := by
  constructor
  · intro found
    obtain ⟨rest, found⟩ := Option.isSome_iff_exists.1 found
    exact ⟨rest, (eq_append_of_after? found).symm⟩
  · intro begins
    obtain ⟨rest, rfl⟩ := begins
    rw [after?_append]
    rfl

theorem occursIn_iff {piece text : List Char} : occursIn piece text = true ↔ piece <:+: text := by
  induction text with
  | nil => rw [occursIn, List.isEmpty_iff, List.infix_nil]
  | cons c rest ih => rw [occursIn, Bool.or_eq_true, isSome_after?_iff, ih, List.infix_cons_iff]

end ClusterLifecycle.Text
