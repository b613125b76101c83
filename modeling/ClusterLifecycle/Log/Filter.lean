import ClusterLifecycle.Log.Pattern

/-!
Which log filters are well formed. A filter is a list of directives between commas. A directive is
a level, a target, or a target and a level around an equals sign; a target may go on with a span in
brackets, and the span with fields in braces. Blanks around a directive do not count for where its
parts begin and end, but the parts are then taken from the directive with its blanks: a level is
spoilt by any of them, a target is not.
-/

namespace ClusterLifecycle.Log

open Text

inductive Format where
  | compact
  | json
  deriving DecidableEq, Repr, Inhabited

namespace Format

def name : Format → String
  | .compact => "compact"
  | .json => "json"

def ofName? (name : String) : Option Format :=
  [Format.compact, .json].find? fun format => format.name == name

end Format

inductive Failure where
  | unknownFormat (name : String)
  | invalidFilter
  | alreadySetUp
  deriving DecidableEq, Repr

def Failure.message : Failure → String
  | .unknownFormat name => s!"invalid log filter: unknown log format '{name}'"
  | .invalidFilter => "invalid log filter"
  | .alreadySetUp =>
    "failed to initialize tracing subscriber: a global default trace dispatcher has already been set"

def Format.parse (name : String) : Except Failure Format :=
  match Format.ofName? name with
  | some format => .ok format
  | none => .error (.unknownFormat name)

namespace Filter

def levelNames : List String := ["error", "warn", "info", "debug", "trace", "off"]

/-- A level by its name in any case or by its number, an optional plus in front. -/
def isLevel (text : List Char) : Bool :=
  let digits := (after? ['+'] text).getD text
  let named := levelNames.contains (String.ofList (text.map Char.toLower))
  named || (match natural? 10 digits with
    | some n => n ≤ 5
    | none => false)

/-- A number as a whole or with a fraction and an exponent, without a sign. -/
def isDecimalNumber (text : List Char) : Bool :=
  let whole := text.takeWhile isDecimal
  let rest := text.drop whole.length
  let (fraction, rest) := match rest with
    | '.' :: rest => (rest.takeWhile isDecimal, rest.dropWhile isDecimal)
    | rest => ([], rest)
  let power := match rest with
    | 'e' :: rest | 'E' :: rest => some ((after? ['+'] rest).getD ((after? ['-'] rest).getD rest))
    | _ => none
  (!whole.isEmpty || !fraction.isEmpty) && match power with
    | some digits => !digits.isEmpty && digits.all isDecimal
    | none => rest.isEmpty

/-- Whether a value is written with a plus sign, as only numbers are. -/
def isPositive (text : List Char) : Bool :=
  match text with
  | '+' :: rest =>
    isDecimalNumber rest || ["inf", "infinity", "nan"].contains (String.ofList (rest.map Char.toLower))
  | _ => false

def splitAt (separator : Char) : List Char → List (List Char)
  | [] => [[]]
  | c :: rest =>
    if c = separator then [] :: splitAt separator rest
    else match splitAt separator rest with
      | [] => [[c]]
      | piece :: more => (c :: piece) :: more

/-- A field: a name, and behind an equals sign a value, which is a number or a pattern. -/
def isField (text : List Char) : Bool :=
  !text.isEmpty && match splitAt '=' text with
    | _ :: value :: _ => isPositive value || Pattern.isPattern value
    | _ => true

/-- What is left of a text after a number of bytes that end with a character. -/
def afterBytes : Nat → List Char → Option (List Char)
  | 0, text => some text
  | _ + 1, [] => none
  | count + 1, c :: rest => if c.utf8Size ≤ count + 1 then afterBytes (count + 1 - c.utf8Size) rest else none
termination_by _ text => text.length

def slice (first last : Nat) (text : List Char) : Option (List Char) := do
  let rest ← afterBytes first text
  let after ← afterBytes last text
  some (rest.take (rest.length - after.length))

/-- Where in a directive its next character stands. Fields and levels know the number of bytes
before their start. -/
inductive Place where
  | start
  | levelOrTarget
  | span
  | field (first : Nat)
  | fieldsEnd
  | spanEnd
  | level (first : Nat)
  | bad
  deriving DecidableEq, Repr

def startsName (c : Char) : Bool :=
  c == '-' || c == ':' || c == '_' || isAlphanumeric c

/-- The place after a character that stands behind `offset` bytes; `directive` has its blanks. -/
def advance (directive : List Char) (place : Place) (offset : Nat) (c : Char) : Place :=
  match place with
  | .start => if c = '[' then .span else if startsName c then .levelOrTarget else .bad
  | .levelOrTarget => if c = '=' then .level (offset + 1) else if c = '[' then .span else .levelOrTarget
  | .span => if c = ']' then .spanEnd else if c = '{' then .field (offset + 1) else .span
  | .field first =>
    if c = '}' then
      if ((slice first offset directive).map isField).getD false then .fieldsEnd else .bad
    else .field first
  | .fieldsEnd => if c = ']' then .spanEnd else .bad
  | .spanEnd => if c = '=' then .level (offset + 1) else .bad
  | .level first => .level first
  | .bad => .bad

def mayEnd (directive : List Char) : Place → Bool
  | .levelOrTarget | .spanEnd => true
  | .level first => match afterBytes first directive with
    | some level => level.isEmpty || isLevel level
    | none => false
  | _ => false

def isDirective (directive : List Char) : Bool :=
  let (place, _) := (trim directive).foldl
    (fun (place, offset) c => (advance directive place offset c, offset + c.utf8Size)) (.start, 0)
  mayEnd directive place

def isValid (filter : String) : Bool :=
  ((splitAt ',' filter.toList).filter (!·.isEmpty)).all isDirective

end Filter

def defaultFilter : String := "info"

/-- Logging can be set up once, and its filter is looked at first. -/
def setUp (alreadyDone : Bool) (filter : Option String) : Except Failure Unit :=
  if Filter.isValid (filter.getD defaultFilter) then
    if alreadyDone then .error .alreadySetUp else .ok ()
  else .error .invalidFilter

end ClusterLifecycle.Log
