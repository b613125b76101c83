import ClusterLifecycle.Text.Digits

/-!
Lengths of time in whole nanoseconds. The text uses the largest unit of which there is a whole one,
and a fraction without trailing zeros.
-/

namespace ClusterLifecycle

structure Duration where
  nanoseconds : Nat
  deriving DecidableEq, Repr, Inhabited

namespace Duration

def ofSeconds (n : Nat) : Duration :=
  ⟨n * 1000000000⟩

def ofMilliseconds (n : Nat) : Duration :=
  ⟨n * 1000000⟩

def seconds (d : Duration) : Nat :=
  d.nanoseconds / 1000000000

/-- The fraction `rest / 10^places` as digits behind a point, or nothing where it is zero. -/
def fraction (places rest : Nat) : List Char :=
  let digits := Text.decimal rest
  let padded := List.replicate (places - digits.length) '0' ++ digits
  if rest = 0 then [] else '.' :: (padded.reverse.dropWhile (· == '0')).reverse

def inUnits (d : Duration) (places : Nat) (unit : List Char) : List Char :=
  Text.decimal (d.nanoseconds / Nat.pow 10 places) ++ fraction places (d.nanoseconds % Nat.pow 10 places) ++ unit

def text (d : Duration) : String :=
  String.ofList <|
    if 1000000000 ≤ d.nanoseconds then d.inUnits 9 ['s']
    else if 1000000 ≤ d.nanoseconds then d.inUnits 6 ['m', 's']
    else if 1000 ≤ d.nanoseconds then d.inUnits 3 ['µ', 's']
    else d.inUnits 0 ['n', 's']

end Duration

end ClusterLifecycle
