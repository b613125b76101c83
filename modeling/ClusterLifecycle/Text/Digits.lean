/-!
Decimal and hexadecimal digits. Numbers are written without leading zeros, and hexadecimal digits
in lower case.
-/

namespace ClusterLifecycle.Text

def decimal (n : Nat) : List Char :=
  Nat.toDigits 10 n

def decimalDigit? (c : Char) : Option Nat :=
  if '0' ≤ c ∧ c ≤ '9' then some (c.toNat - '0'.toNat) else none

def isDecimal (c : Char) : Bool :=
  (decimalDigit? c).isSome

def hexDigit (n : Nat) : Char :=
  if n < 10 then Char.ofNat ('0'.toNat + n) else Char.ofNat ('a'.toNat + (n - 10))

def hexDigit? (c : Char) : Option Nat :=
  if '0' ≤ c ∧ c ≤ '9' then some (c.toNat - '0'.toNat)
  else if 'a' ≤ c ∧ c ≤ 'f' then some (c.toNat - 'a'.toNat + 10)
  else if 'A' ≤ c ∧ c ≤ 'F' then some (c.toNat - 'A'.toNat + 10)
  else none

/-- The value of digits in a base, given how one digit is read; a character that is no digit of
the base spoils it. -/
def valueOf (base : Nat) (digit? : Char → Option Nat) (digits : List Char) : Option Nat :=
  digits.foldl (fun sum c => do
    let total ← sum
    let d ← digit? c
    if d < base then some (total * base + d) else none) (some 0)

def natural? (base : Nat) (digits : List Char) : Option Nat :=
  if digits.isEmpty then none else valueOf base hexDigit? digits

theorem hexDigit?_hexDigit : ∀ n < 16, hexDigit? (hexDigit n) = some n := by decide

theorem isDecimal_decimal {n : Nat} {c : Char} (member : c ∈ decimal n) : isDecimal c = true := by
  have digit := Nat.isDigit_of_mem_toDigits (by decide) (by decide) member
  simp only [Char.isDigit, Bool.and_eq_true, decide_eq_true_eq] at digit
  simp only [isDecimal, decimalDigit?, Char.le_def, Option.isSome_ite]
  exact digit

end ClusterLifecycle.Text
