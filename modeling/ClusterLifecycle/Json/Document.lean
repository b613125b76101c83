import ClusterLifecycle.Text.Digits

/-!
JSON texts as trees that keep what is written: members in their order and as often as they are
repeated, and numbers as numerals. What a numeral or a repetition means is left to whoever reads
the tree.
-/

namespace ClusterLifecycle.Json

/-- A number as written. The fraction is empty where there is no point; the exponent says whether
it is negative and gives its digits. -/
structure Numeral where
  negative : Bool
  whole : List Char
  fraction : List Char
  exponent : Option (Bool × List Char)
  deriving DecidableEq, Repr

/-- A string that escapes half of a surrogate pair is grammatical and yet no text: its content is
`none`. -/
inductive Document where
  | null
  | bool (b : Bool)
  | number (numeral : Numeral)
  | string (text : Option String)
  | array (items : List Document)
  | object (members : List (Option String × Document))
  deriving Repr, Inhabited

namespace Document

def text (s : String) : Document :=
  .string (some s)

def optional : Option String → Document
  | none => .null
  | some s => text s

def natural (n : Nat) : Document :=
  .number ⟨false, Text.decimal n, [], none⟩

def integer (n : Int) : Document :=
  .number ⟨n < 0, Text.decimal n.natAbs, [], none⟩

def record (members : List (String × Document)) : Document :=
  .object (members.map fun (name, value) => (some name, value))

end Document

end ClusterLifecycle.Json
