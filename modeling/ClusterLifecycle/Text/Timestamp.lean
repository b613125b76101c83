import ClusterLifecycle.Text.Blank
import ClusterLifecycle.Text.Digits

/-!
Points in time as `2024-01-02T03:04:05.678+01:00`. Blanks may stand before each number and before
the marks between them, a leading zero may be left out, and the date and the time may be a blank
apart. The offset is `Z`, `UTC`, or hours and minutes with a sign. Dates reach from the year −262143
to the year 262142, there and in universal time.
-/

namespace ClusterLifecycle.Text.Timestamp

/-- A number of at least one and at most `width` digits, and what follows it. -/
def number? (width : Nat) (text : List Char) : Option (Nat × List Char) := do
  let text := trimStart text
  let digits := (text.take width).takeWhile isDecimal
  let n ← natural? 10 digits
  some (n, text.drop digits.length)

/-- A year; with a sign it may have any number of digits. -/
def year? (text : List Char) : Option (Int × List Char) :=
  match trimStart text with
  | '-' :: rest => do
    if !(rest.head?.any isDecimal) then none
    let (n, rest) ← number? rest.length rest
    some (-n, rest)
  | '+' :: rest => do
    if !(rest.head?.any isDecimal) then none
    let (n, rest) ← number? rest.length rest
    some (n, rest)
  | text => do
    let (n, rest) ← number? 4 text
    some (n, rest)

def mark? (c : Char) (text : List Char) : Option (List Char) :=
  after? [c] (trimStart text)

def isLeap (year : Int) : Bool :=
  year % 4 = 0 && (year % 100 ≠ 0 || year % 400 = 0)

def daysIn (year : Int) (month : Nat) : Nat :=
  if month = 2 then if isLeap year then 29 else 28
  else if [4, 6, 9, 11].contains month then 30 else 31

def minYear : Int := -262143

def maxYear : Int := 262142

structure Date where
  year : Int
  month : Nat
  day : Nat
  deriving DecidableEq, Repr

def Date.exists (date : Date) : Bool :=
  minYear ≤ date.year && date.year ≤ maxYear && 1 ≤ date.month && date.month ≤ 12 && 1 ≤ date.day &&
    date.day ≤ daysIn date.year date.month

def firstDate : Date := ⟨minYear, 1, 1⟩

def lastDate : Date := ⟨maxYear, 12, 31⟩

def date? (text : List Char) : Option (Date × List Char) := do
  let (year, text) ← year? text
  let (month, text) ← number? 2 (← mark? '-' text)
  let (day, text) ← number? 2 (← mark? '-' text)
  let date : Date := ⟨year, month, day⟩
  if date.exists then some (date, text) else none

def fraction? : List Char → Option (List Char)
  | '.' :: rest => if rest.head?.any isDecimal then some (rest.dropWhile isDecimal) else none
  | text => some text

/-- A time of day, in seconds; a leap second counts as one. -/
def time? (text : List Char) : Option (Int × List Char) := do
  let (hour, text) ← number? 2 text
  let (minute, text) ← number? 2 (← mark? ':' text)
  let (second, text) ← number? 2 (← mark? ':' text)
  let text ← fraction? text
  if hour ≤ 23 ∧ minute ≤ 59 ∧ second ≤ 60 then
    some (hour * 3600 + minute * 60 + min second 59, trimStart text)
  else none

def pair? : List Char → Option (Nat × List Char)
  | a :: b :: rest => do some ((← decimalDigit? a) * 10 + (← decimalDigit? b), rest)
  | _ => none

def signed? : List Char → Option (Int × List Char)
  | c :: rest =>
    if c = '+' then some (1, rest) else if c = '-' ∨ c = '−' then some (-1, rest) else none
  | [] => none

def offset? (text : List Char) : Option (Int × List Char) :=
  if (text.take 3).map Char.toLower = ['u', 't', 'c'] then some (0, text.drop 3)
  else match text with
    | 'Z' :: rest | 'z' :: rest => some (0, rest)
    | text => do
      let (sign, text) ← signed? text
      let (hours, text) ← pair? text
      let (minutes, text) ← pair? (text.dropWhile fun c => c = ':' || isBlank c)
      if hours ≤ 23 ∧ minutes ≤ 59 then some (sign * (hours * 3600 + minutes * 60), text) else none

def isUniversal (date : Date) (time offset : Int) : Bool :=
  !(date = firstDate && time - offset < 0) && !(date = lastDate && 86400 ≤ time - offset)

def timestamp? (text : List Char) : Option (List Char) := do
  let (date, text) ← date? text
  match text with
  | c :: rest =>
    if c = 'T' ∨ c = 't' ∨ c = ' ' then
      let (time, rest) ← time? rest
      let (offset, rest) ← offset? rest
      if isUniversal date time offset then some rest else none
    else none
  | [] => none

def isTimestamp (text : List Char) : Bool :=
  match timestamp? text with
  | some rest => (trimStart rest).isEmpty
  | none => false

end ClusterLifecycle.Text.Timestamp
