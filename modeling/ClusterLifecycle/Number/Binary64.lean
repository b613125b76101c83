/-!
Finite doubles as whole numbers. The magnitude of a double is counted in units of 2^-1074, the
smallest positive one, so that sums of powers of two never leave the natural numbers and every
operation is an exact quotient followed by one rounding to nearest, ties to even.
-/

namespace ClusterLifecycle

structure Binary64 where
  negative : Bool
  ticks : Nat
  deriving DecidableEq, Repr

namespace Binary64

def numEq (x y : Binary64) : Bool :=
  x.ticks == y.ticks && (x.negative == y.negative || x.ticks == 0)

def one : Nat := 1 <<< 1074

def overflow : Nat := 1 <<< 2098

/-- A quotient rounded to the nearest natural number, a tie going to the even one. -/
def roundDiv (num den : Nat) : Nat :=
  let q := num / den
  let r := num % den
  if 2 * r > den ∨ (2 * r = den ∧ q % 2 = 1) then q + 1 else q

/-- The distance between neighbouring doubles around a magnitude, as a power of two: a double has
53 significant bits. -/
def spacing (ticks : Nat) : Nat :=
  (ticks.log2 + 1) - 53

def nearest (num den : Nat) : Nat :=
  let s := spacing (num / den)
  roundDiv num (den <<< s) <<< s

def ofNat (n : Nat) : Nat :=
  nearest (n * one) 1

def mul (x y : Nat) : Nat :=
  nearest (x * y) one

def div (x y : Nat) : Nat :=
  nearest (x * one) y

def tenTo (k : Nat) : Nat :=
  ofNat (Nat.pow 10 k)

/-- Division by a power of ten in steps of at most 10^308, the largest power that is a double. -/
def divTen : Nat → Nat → Nat → Nat
  | 0, ticks, rest => div ticks (tenTo rest)
  | steps + 1, ticks, rest => if ticks = 0 then 0 else divTen steps (div ticks (tenTo 308)) rest

/-- A significand scaled by a power of ten with one rounding for the significand and one for each
multiplication or division, which may miss the nearest double by a unit in the last place. Nothing
where the magnitude is too large. -/
def scaled (significand : Nat) (exponent : Int) : Option Nat :=
  let start := ofNat significand
  match exponent with
  | .ofNat k =>
    if k ≤ 308 then
      let product := mul start (tenTo k)
      if product < overflow then some product else none
    else if start = 0 then some 0 else none
  | .negSucc j => some (divTen (j / 308) start (j % 308 + 1))

def bits (x : Binary64) : Nat :=
  let s := spacing x.ticks
  (if x.negative then 1 <<< 63 else 0) + s <<< 52 + x.ticks >>> s

end Binary64

end ClusterLifecycle
