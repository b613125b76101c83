import ClusterLifecycle.Number.Binary64

/-!
The fewest decimal digits that read back as a given double. For one digit, then two, and so on,
the two decimals of that length around the double are tried; the first length with a decimal that
rounds to the double wins, and of two such decimals the nearer.
-/

namespace ClusterLifecycle.Binary64

structure Decimal where
  digits : Nat
  exponent : Int
  deriving DecidableEq, Repr

/-- The least power of ten to reach one tick-count with another, by trial. -/
def stepsToOne : Nat → Nat → Nat
  | 0, _ => 0
  | limit + 1, ticks => if ticks ≥ one then 0 else stepsToOne limit (ticks * 10) + 1

def leadingExponent (ticks : Nat) : Int :=
  if ticks ≥ one then ((Nat.toDigits 10 (ticks / one)).length : Int) - 1
  else - (stepsToOne 330 ticks : Int)

/-- The double as a quotient on the grid of multiples of `10 ^ p`, and the width on that grid of
the gap between neighbouring doubles. -/
def onGrid (ticks : Nat) (p : Int) : Nat × Nat × Nat :=
  let gap := 1 <<< spacing ticks
  match p with
  | .ofNat k => (ticks, one * Nat.pow 10 k, gap)
  | .negSucc j => (ticks * Nat.pow 10 (j + 1), one, gap * Nat.pow 10 (j + 1))

/-- Whether the gap below a double is half the gap above: at a power of two, save the smallest. -/
def narrowBelow (ticks : Nat) : Bool :=
  spacing ticks > 0 && ticks == 1 <<< (spacing ticks + 52)

/-- Whether `candidate` on a grid lies in the interval of numbers that round to the double; the
ends belong to it where the significand is even. -/
def roundsBack (ticks candidate : Nat) (quotient : Nat × Nat × Nat) : Bool :=
  let (num, den, gap) := quotient
  let even := ticks >>> spacing ticks % 2 == 0
  let within := fun distance room => if even then distance ≤ room else distance < room
  let point := candidate * den
  if point ≤ num then
    if narrowBelow ticks then within (4 * (num - point)) gap else within (2 * (num - point)) gap
  else within (2 * (point - num)) gap

def ofLength? (ticks : Nat) (lead : Int) (length : Nat) : Option Decimal :=
  let p := lead - (length - 1 : Nat)
  let grid := onGrid ticks p
  let (num, den, _) := grid
  let below := num / den
  let above := below + 1
  match roundsBack ticks below grid && below > 0, roundsBack ticks above grid with
  | true, true =>
    let nearer := if 2 * (num % den) < den ∨ (2 * (num % den) = den ∧ below % 2 = 0) then below else above
    some ⟨nearer, p⟩
  | true, false => some ⟨below, p⟩
  | false, true => some ⟨above, p⟩
  | false, false => none

/-- A decimal without trailing zeros, given how many may be dropped. -/
def Decimal.strip : Nat → Decimal → Decimal
  | 0, d => d
  | limit + 1, d => if d.digits % 10 = 0 then strip limit ⟨d.digits / 10, d.exponent + 1⟩ else d

def tryLengths (ticks : Nat) (lead : Int) : Nat → Nat → Option Decimal
  | 0, _ => none
  | more + 1, length => ofLength? ticks lead length <|> tryLengths ticks lead more (length + 1)

def shortest (ticks : Nat) : Decimal :=
  ((tryLengths ticks (leadingExponent ticks) 17 1).getD ⟨0, 0⟩).strip 17

end ClusterLifecycle.Binary64
